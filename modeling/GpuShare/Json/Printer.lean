import GpuShare.Text.Hex
import GpuShare.Json.Value

/-!
Writing JSON text, without blanks. Quotes, backslashes and control characters are escaped; every
other character stands for itself.
-/

set_option autoImplicit false

namespace GpuShare.Json

open Text

def escapeChar (c : Char) : List Char :=
  if c = '"' then ['\\', '"']
  else if c = '\\' then ['\\', '\\']
  else if c = '\n' then ['\\', 'n']
  else if c = '\r' then ['\\', 'r']
  else if c = '\t' then ['\\', 't']
  else if c.toNat < 0x20 then
    ['\\', 'u', '0', '0', hexDigit (c.toNat / 16), hexDigit (c.toNat % 16)]
  else [c]

def quote (s : String) : String :=
  String.ofList ('"' :: s.toList.flatMap escapeChar ++ ['"'])

mutual

/-- The text of a value. A string without text is written as null. -/
def render : Value → String
  | .null => "null"
  | .bool true => "true"
  | .bool false => "false"
  | .number n => String.ofList n.render
  | .text none => "null"
  | .text (some s) => quote s
  | .array items => "[" ++ ",".intercalate (renderItems items) ++ "]"
  | .object members => "\x7b" ++ ",".intercalate (renderMembers members) ++ "\x7d"

def renderItems : List Value → List String
  | [] => []
  | item :: items => render item :: renderItems items

def renderMembers : List (Option String × Value) → List String
  | [] => []
  | (key, value) :: members => (quote (key.getD "") ++ ":" ++ render value) :: renderMembers members

end

end GpuShare.Json
