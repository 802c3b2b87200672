import GpuShare.Text.Decimal

/-!
JSON values as they were written: numbers keep their digits, and a string whose escapes name half a
surrogate pair is a value without text. So a reader can pass over what it does not use and refuse
only what it does.
-/

set_option autoImplicit false

namespace GpuShare.Json

open Text

structure Number where
  negative : Bool
  whole : List Char
  fraction : List Char
  exponent : Option Int
  deriving Repr, DecidableEq

/-- A value; the members of an object keep their order and their repetitions. -/
inductive Value where
  | null
  | bool (value : Bool)
  | number (value : Number)
  | text (content : Option String)
  | array (items : List Value)
  | object (members : List (Option String × Value))

instance : Inhabited Value := ⟨.null⟩

namespace Number

def isWhole (n : Number) : Bool := n.fraction.isEmpty && n.exponent.isNone

/-- The integer a number is written as; a written minus zero is no integer. -/
def toInt? (n : Number) : Option Int :=
  if n.isWhole then
    (readNat? n.whole).bind fun value =>
      if n.negative then (if value = 0 then none else some (-(value : Int))) else some value
  else none

/-- Appends digits to a value as long as it stays below 2^64: the value, and the digits left. -/
def gather (value : Nat) : List Char → Nat × List Char
  | [] => (value, [])
  | c :: cs =>
    let next := value * 10 + (digitValue? c).getD 0
    if next < 18446744073709551616 then gather next cs else (value, c :: cs)

/-- `significand · 10^exponent` in floating point: one multiplication or division by a power of ten,
after divisions by 10^308 while the exponent is out of reach. A result that is too large is none. -/
def scale (significand : Float) (exponent : Int) : Nat → Option Float
  | 0 => none
  | steps + 1 =>
    if exponent.natAbs ≤ 308 then
      let power := Float.ofScientific 1 false exponent.natAbs
      if 0 ≤ exponent then
        let value := significand * power
        if value.isInf then none else some value
      else some (significand / power)
    else if significand == 0 then some significand
    else if 0 ≤ exponent then none
    else scale (significand / Float.ofScientific 1 false 308) (exponent + 308) steps

/-- The floating point value of a number: the digits that fit 64 bits, scaled by the power of ten
that the point, the exponent and the digits beyond 64 bits call for. -/
def toFloat? (n : Number) : Option Float :=
  let (front, dropped) := gather 0 n.whole
  let (significand, ignored) := gather front n.fraction
  let used := n.fraction.length - ignored.length
  let written := n.exponent.getD 0
  let exponent : Int := (dropped.length : Int) - used
  let magnitude : Option Float :=
    if written.natAbs > 2147483647 then
      if significand ≠ 0 ∧ 0 < written then none else some 0
    else
      let total := max (-2147483648) (min 2147483647 (exponent + written))
      scale (UInt64.ofNat significand).toFloat total 4
  magnitude.map fun value => if n.negative then -value else value

def ofInt (i : Int) : Number := ⟨decide (i < 0), digits i.natAbs, [], none⟩

def render (n : Number) : List Char :=
  (if n.negative then ['-'] else []) ++ n.whole ++
    (if n.fraction.isEmpty then [] else '.' :: n.fraction) ++
    (match n.exponent with | none => [] | some e => 'e' :: signedDigits e)

end Number

namespace Value

def str (s : String) : Value := .text (some s)

def nat (n : Nat) : Value := .number (.ofInt n)

def int (i : Int) : Value := .number (.ofInt i)

def obj (members : List (String × Value)) : Value :=
  .object (members.map fun member => (some member.1, member.2))

def option {α : Type} (f : α → Value) : Option α → Value
  | none => .null
  | some a => f a

def list {α : Type} (f : α → Value) (items : List α) : Value := .array (items.map f)

end Value

def lookup? (key : String) (members : List (Option String × Value)) : Option Value :=
  members.foldl (fun found member => if member.1 = some key then some member.2 else found) none

end GpuShare.Json
