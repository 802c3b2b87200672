import GpuShare.Text.Hex
import GpuShare.Text.Invisible

/-!
Text in quotes for people to read. Quotes and backslashes are escaped, and what would not show is named
by its code point.
-/

set_option autoImplicit false

namespace GpuShare.Text

def hexNumber (n : Nat) : List Char :=
  if n < 16 then [hexDigit n] else hexNumber (n / 16) ++ [hexDigit (n % 16)]

def quotedChar (c : Char) : List Char :=
  if c = '"' ∨ c = '\\' then ['\\', c]
  else if c = '\n' then ['\\', 'n']
  else if c = '\r' then ['\\', 'r']
  else if c = '\t' then ['\\', 't']
  else if c.toNat = 0 then ['\\', '0']
  else if isInvisible c then '\\' :: 'u' :: '\x7b' :: hexNumber c.toNat ++ ['\x7d']
  else [c]

def quoted (text : String) : String :=
  String.ofList ('"' :: text.toList.flatMap quotedChar ++ ['"'])

def quotedList (texts : List String) : String := "[" ++ ", ".intercalate (texts.map quoted) ++ "]"

end GpuShare.Text
