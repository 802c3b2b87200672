/-!
UTF-8. Bytes are cut into characters and ill-formed pieces; a piece is the longest prefix of a
well-formed sequence that stands there, or a single byte. The lossy reading puts U+FFFD for every
piece, the strict reading refuses them.
-/

set_option autoImplicit false

namespace GpuShare.Text

def isContinuation (b : UInt8) : Bool := 0x80 ≤ b && b ≤ 0xBF

/-- Whether `second` may follow `first` at the head of a sequence of two or more bytes. -/
def mayFollow (first second : UInt8) : Bool :=
  if first = 0xE0 then 0xA0 ≤ second && second ≤ 0xBF
  else if first = 0xED then 0x80 ≤ second && second ≤ 0x9F
  else if first = 0xF0 then 0x90 ≤ second && second ≤ 0xBF
  else if first = 0xF4 then 0x80 ≤ second && second ≤ 0x8F
  else isContinuation second

def tailLength? (first : UInt8) : Option Nat :=
  if first < 0x80 then some 0
  else if 0xC2 ≤ first ∧ first ≤ 0xDF then some 1
  else if 0xE0 ≤ first ∧ first ≤ 0xEF then some 2
  else if 0xF0 ≤ first ∧ first ≤ 0xF4 then some 3
  else none

def sequenceTail (first : UInt8) (n : Nat) (rest : List UInt8) : List UInt8 :=
  match n, rest with
  | n + 1, b :: rest =>
    if mayFollow first b then b :: (rest.take n).takeWhile isContinuation else []
  | _, _ => []

/-- The character of a sequence: the free bits of its first byte, then six bits of every other. -/
def sequenceChar (first : UInt8) (tail : List UInt8) : Char :=
  let bits := if tail.isEmpty then first.toNat else first.toNat % (1 <<< (6 - tail.length))
  Char.ofNat (tail.foldl (fun bits b => bits * 64 + b.toNat % 64) bits)

/-- The characters of a byte string after its first `skip` bytes, with `none` for each ill-formed
piece. -/
def decodeUtf8From : Nat → List UInt8 → List (Option Char)
  | _, [] => []
  | skip + 1, _ :: rest => decodeUtf8From skip rest
  | 0, first :: rest =>
    match tailLength? first with
    | none => none :: decodeUtf8From 0 rest
    | some n =>
      let tail := sequenceTail first n rest
      (if tail.length = n then some (sequenceChar first tail) else none) ::
        decodeUtf8From tail.length rest

def decodeUtf8 (bytes : List UInt8) : List (Option Char) := decodeUtf8From 0 bytes

def utf8Lossy (bytes : List UInt8) : String :=
  String.ofList ((decodeUtf8 bytes).map fun c => c.getD (Char.ofNat 0xFFFD))

def utf8? (bytes : List UInt8) : Option String :=
  ((decodeUtf8 bytes).mapM id).map String.ofList

def charBytes (c : Char) : List UInt8 :=
  let n := c.toNat
  if n < 0x80 then [n.toUInt8]
  else if n < 0x800 then [(0xC0 + n / 64).toUInt8, (0x80 + n % 64).toUInt8]
  else if n < 0x10000 then
    [(0xE0 + n / 4096).toUInt8, (0x80 + n / 64 % 64).toUInt8, (0x80 + n % 64).toUInt8]
  else
    [(0xF0 + n / 262144).toUInt8, (0x80 + n / 4096 % 64).toUInt8, (0x80 + n / 64 % 64).toUInt8,
      (0x80 + n % 64).toUInt8]

def utf8Bytes (s : String) : List UInt8 := s.toList.flatMap charBytes

end GpuShare.Text
