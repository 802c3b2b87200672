/-!
Hexadecimal text: two digits a byte, the high half first.
-/

set_option autoImplicit false

namespace GpuShare.Text

def hexValue? (c : Char) : Option Nat :=
  if c.isDigit then some (c.toNat - 48)
  else if 'a' ≤ c ∧ c ≤ 'f' then some (c.toNat - 87)
  else if 'A' ≤ c ∧ c ≤ 'F' then some (c.toNat - 55)
  else none

def hexDigit (n : Nat) : Char := if n < 10 then Char.ofNat (48 + n) else Char.ofNat (87 + n)

/-- The bytes of hexadecimal text, up to the first pair that is no byte. -/
def readHexBytes : List Char → List UInt8
  | high :: low :: rest =>
    match hexValue? high, hexValue? low with
    | some h, some l => (h * 16 + l).toUInt8 :: readHexBytes rest
    | _, _ => []
  | _ => []

def readHex (text : String) : List UInt8 := readHexBytes text.toList

def hexDigits : Nat → Nat → List Char
  | 0, _ => []
  | n + 1, value => hexDigits n (value / 16) ++ [hexDigit (value % 16)]

def floatBits (x : Float) : String :=
  if x.isNaN then "nan" else String.ofList (hexDigits 16 x.toBits.toNat)

end GpuShare.Text
