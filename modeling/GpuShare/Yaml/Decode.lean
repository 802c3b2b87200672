import GpuShare.Dictionary
import GpuShare.Text.Decimal
import GpuShare.Text.Hex
import GpuShare.Yaml.Node

/-!
Typed views of YAML nodes. Any scalar has a text; only a plain one has a number or a truth value. Nothing
written where a collection is expected is an empty one.
-/

set_option autoImplicit false

namespace GpuShare.Yaml

open Text

/-- Digits with a zero in front are text. -/
def isZeroPadded (text : List Char) : Bool :=
  let digits := match text with
    | '-' :: rest => rest
    | '+' :: rest => rest
    | _ => text
  match digits with
  | '0' :: c :: rest => (c :: rest).all Char.isDigit
  | _ => false

def readBase? (base : Nat) (text : List Char) : Option Nat :=
  if text.isEmpty then none
  else text.foldlM (fun value c => do
    let digit ← hexValue? c
    if digit < base then some (value * base + digit) else none) 0

def namedBases : List (Char × Nat) := [('x', 16), ('o', 8), ('b', 2)]

def readNamedBase? (text : List Char) : Option Nat :=
  match text with
  | '0' :: name :: rest =>
    (namedBases.find? (·.1 = name)).bind fun base => readBase? base.2 rest
  | _ => none

def readMagnitude? (text : List Char) : Option Nat :=
  match readNamedBase? text with
  | some value => some value
  | none => if isZeroPadded text then none else readBase? 10 text

def readUnsigned? (text : List Char) : Option Nat :=
  match text with
  | '+' :: rest => readMagnitude? rest
  | _ => readMagnitude? text

def readInteger? (text : List Char) : Option Int :=
  match text with
  | '-' :: rest => (readMagnitude? rest).map fun value => -(value : Int)
  | _ => (readUnsigned? text).map fun value => (value : Int)

def readExponent? : List Char → Option Int
  | [] => some 0
  | c :: rest => if c = 'e' ∨ c = 'E' then readSigned? rest else none

/-- The value of decimal digits around a point, times a power of ten, in floating point. -/
def decimalFloat (whole fraction : List Char) (exponent : Int) : Float :=
  let digits := (readDigitsFrom? 0 (whole ++ fraction)).getD 0
  let scale := exponent - fraction.length
  let length : Int := (whole ++ fraction).length
  if digits = 0 ∨ scale + length < -400 then 0
  else if 400 < scale + length ∧ 400 < scale then 1 / 0
  else Float.ofScientific digits (decide (scale < 0)) scale.natAbs

def readDecimal? (text : List Char) : Option Float := do
  let whole := text.takeWhile Char.isDigit
  let behind := text.drop whole.length
  let (fraction, behind) := match behind with
    | '.' :: rest =>
      let fraction := rest.takeWhile Char.isDigit
      (fraction, rest.drop fraction.length)
    | _ => ([], behind)
  if whole.isEmpty && fraction.isEmpty then none
  else return decimalFloat whole fraction (← readExponent? behind)

def infinityTexts : List String := [".inf", ".Inf", ".INF"]

def nanTexts : List String := [".nan", ".NaN", ".NAN"]

/-- Reads a floating point number; a decimal number must be finite. -/
def readFloat? (text : List Char) : Option Float :=
  let (negative, rest) := match text with
    | '-' :: rest => (true, rest)
    | '+' :: rest => (false, rest)
    | _ => (false, text)
  let signed (x : Float) : Float := if negative then -x else x
  if infinityTexts.contains (String.ofList rest) then some (signed (1 / 0))
  else if nanTexts.contains (String.ofList text) then some (0 / 0)
  else (readDecimal? rest).bind fun x => if x.isFinite then some (signed x) else none

def readBool? (text : List Char) : Option Bool :=
  if ["true", "True", "TRUE"].contains (String.ofList text) then some true
  else if ["false", "False", "FALSE"].contains (String.ofList text) then some false
  else none

def isNull (text : List Char) : Bool :=
  text.isEmpty || ["null", "Null", "NULL", "~"].contains (String.ofList text)

/-- Whether an integer has at most 128 bits. -/
def isNarrow (value : Int) : Bool := -(1 <<< 127 : Nat) ≤ value && value < (1 <<< 128 : Nat)

def isText (text : List Char) : Bool :=
  !isNull text && (readBool? text).isNone && !(readInteger? text).any isNarrow &&
    (isZeroPadded text || (readFloat? text).isNone)

namespace Node

def isBlank : Node → Bool
  | .scalar [] true => true
  | _ => false

def string? : Node → Option String
  | .scalar text _ => some (String.ofList text)
  | _ => none

def plain? {α : Type} (read? : List Char → Option α) : Node → Option α
  | .scalar text true => read? text
  | _ => none

def bool? (node : Node) : Option Bool := node.plain? readBool?

def uint32? (node : Node) : Option UInt32 :=
  (node.plain? readUnsigned?).bind fun n => if n < 4294967296 then some (UInt32.ofNat n) else none

def int32? (node : Node) : Option Int32 :=
  (node.plain? readInteger?).bind fun i =>
    if -2147483648 ≤ i ∧ i ≤ 2147483647 then some (Int32.ofInt i) else none

def float? (node : Node) : Option Float := node.plain? readFloat?

def list? {α : Type} (view : Node → Option α) (node : Node) : Option (List α) :=
  match node with
  | .sequence items => items.mapM view
  | .scalar .. => if node.isBlank then some [] else none
  | .mapping _ => none

def pairs? (node : Node) : Option (List (String × Node)) :=
  match node with
  | .mapping pairs => pairs.mapM fun pair => do return (← pair.1.string?, pair.2)
  | .scalar .. => if node.isBlank then some [] else none
  | .sequence _ => none

/-- A map from text; of pairs with one key the last counts. -/
def dictionary? {α : Type} (view : Node → Option α) (node : Node) : Option (Dictionary α) := do
  let entries ← (← node.pairs?).mapM fun pair => do return (pair.1, ← view pair.2)
  return .ofList entries

/-- The values of named fields, each given at most once; other fields may be there. -/
def fields? (names : List String) (node : Node) : Option (List (Option Node)) := do
  let pairs ← node.pairs?
  names.mapM fun name =>
    match pairs.filter (·.1 = name) with
    | [] => some none
    | [pair] => some (some pair.2)
    | _ => none

def orElse? {α : Type} (absent : α) (view : Node → Option α) : Option Node → Option α
  | none => some absent
  | some node => view node

end Node

end GpuShare.Yaml
