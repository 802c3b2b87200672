import GpuShare.Text.Hex
import GpuShare.Json.Value

/-!
Reading JSON text. The grammar is strict: no comments, no trailing commas, no control characters in
strings, no leading zeros, nothing after the value but blanks.
-/

set_option autoImplicit false

namespace GpuShare.Json

open Text

/-- The text after leading blanks; JSON has four of them. -/
def skipBlanks (cs : List Char) : List Char :=
  cs.dropWhile fun c => c == ' ' || c == '\n' || c == '\t' || c == '\r'

/-- A piece of a string: a character, or one half of a surrogate pair that was written as escape. -/
inductive Piece where
  | char (c : Char)
  | half (unit : Nat)

def escaped? (a b c d : Char) : Option Piece := do
  let unit := (((← hexValue? a) * 16 + (← hexValue? b)) * 16 + (← hexValue? c)) * 16 + (← hexValue? d)
  return if 0xD800 ≤ unit ∧ unit ≤ 0xDFFF then .half unit else .char (Char.ofNat unit)

def shortEscape? (c : Char) : Option Char :=
  match c with
  | '"' => some '"'
  | '\\' => some '\\'
  | '/' => some '/'
  | 'b' => some '\x08'
  | 'f' => some '\x0c'
  | 'n' => some '\n'
  | 'r' => some '\r'
  | 't' => some '\t'
  | _ => none

def readPieces? : List Char → Option (List Piece × List Char)
  | [] => none
  | '"' :: rest => some ([], rest)
  | '\\' :: 'u' :: a :: b :: c :: d :: rest => do
    let piece ← escaped? a b c d
    let (pieces, after) ← readPieces? rest
    return (piece :: pieces, after)
  | '\\' :: e :: rest => do
    let c ← shortEscape? e
    let (pieces, after) ← readPieces? rest
    return (.char c :: pieces, after)
  | c :: rest =>
    if c.toNat < 0x20 ∨ c = '\\' then none
    else (readPieces? rest).map fun read => (.char c :: read.1, read.2)

/-- The text of pieces, if every half of a surrogate pair has its other half. -/
def joinPieces? : List Piece → Option (List Char)
  | [] => some []
  | .char c :: rest => (joinPieces? rest).map (c :: ·)
  | .half high :: .half low :: rest =>
    if high < 0xDC00 ∧ 0xDC00 ≤ low then
      (joinPieces? rest).map
        (Char.ofNat (0x10000 + (high - 0xD800) * 0x400 + (low - 0xDC00)) :: ·)
    else none
  | .half _ :: _ => none

def readText? (cs : List Char) : Option (Option String × List Char) :=
  (readPieces? cs).map fun read => ((joinPieces? read.1).map String.ofList, read.2)

def splitDigits (cs : List Char) : List Char × List Char := cs.span Char.isDigit

def readExponent? (cs : List Char) : Option (Option Int × List Char) :=
  match cs with
  | c :: rest =>
    if c = 'e' ∨ c = 'E' then
      let (negative, rest) := match rest with
        | '-' :: rest => (true, rest)
        | '+' :: rest => (false, rest)
        | rest => (false, rest)
      let (run, rest) := splitDigits rest
      (readNat? run).map fun n => (some (if negative then -(n : Int) else n), rest)
    else some (none, cs)
  | [] => some (none, [])

def readNumber? (negative : Bool) (cs : List Char) : Option (Number × List Char) :=
  let (whole, rest) := splitDigits cs
  match whole with
  | [] => none
  | '0' :: _ :: _ => none
  | _ =>
    match rest with
    | '.' :: rest =>
      let (fraction, rest) := splitDigits rest
      if fraction.isEmpty then none
      else (readExponent? rest).map fun read => (⟨negative, whole, fraction, read.1⟩, read.2)
    | rest => (readExponent? rest).map fun read => (⟨negative, whole, [], read.1⟩, read.2)

mutual

def readValue? : Nat → List Char → Option (Value × List Char)
  | 0, _ => none
  | fuel + 1, cs =>
    match skipBlanks cs with
    | 'n' :: 'u' :: 'l' :: 'l' :: rest => some (.null, rest)
    | 't' :: 'r' :: 'u' :: 'e' :: rest => some (.bool true, rest)
    | 'f' :: 'a' :: 'l' :: 's' :: 'e' :: rest => some (.bool false, rest)
    | '"' :: rest => (readText? rest).map fun read => (.text read.1, read.2)
    | '-' :: rest => (readNumber? true rest).map fun read => (.number read.1, read.2)
    | '[' :: rest =>
      match skipBlanks rest with
      | ']' :: rest => some (.array [], rest)
      | rest => (readItems? fuel rest).map fun read => (.array read.1, read.2)
    | '\x7b' :: rest =>
      match skipBlanks rest with
      | '\x7d' :: rest => some (.object [], rest)
      | rest => (readMembers? fuel rest).map fun read => (.object read.1, read.2)
    | rest => (readNumber? false rest).map fun read => (.number read.1, read.2)

def readItems? : Nat → List Char → Option (List Value × List Char)
  | 0, _ => none
  | fuel + 1, cs => do
    let (item, rest) ← readValue? fuel cs
    match skipBlanks rest with
    | ',' :: rest =>
      let (items, rest) ← readItems? fuel rest
      return (item :: items, rest)
    | ']' :: rest => return ([item], rest)
    | _ => none

def readMembers? : Nat → List Char → Option (List (Option String × Value) × List Char)
  | 0, _ => none
  | fuel + 1, cs => do
    match skipBlanks cs with
    | '"' :: rest =>
      let (key, rest) ← readText? rest
      match skipBlanks rest with
      | ':' :: rest =>
        let (value, rest) ← readValue? fuel rest
        match skipBlanks rest with
        | ',' :: rest =>
          let (members, rest) ← readMembers? fuel rest
          return ((key, value) :: members, rest)
        | '\x7d' :: rest => return ([(key, value)], rest)
        | _ => none
      | _ => none
    | _ => none

end

def parse? (text : String) : Option Value :=
  let cs := text.toList
  (readValue? (cs.length + 1) cs).bind fun read =>
    if (skipBlanks read.2).isEmpty then some read.1 else none

end GpuShare.Json
