import GpuShare.Json.Value
import GpuShare.Yaml.Decode

/-!
JSON values as nodes, and nodes as JSON values: strings are quoted scalars, and numbers, truth values and
null are plain ones. A node whose keys are not all scalars loses the others.
-/

set_option autoImplicit false

namespace GpuShare.Yaml

open Json

def plainScalar (text : String) : Node := .scalar text.toList true

mutual

def Node.ofJson : Value → Node
  | .null => plainScalar "null"
  | .bool value => plainScalar (if value then "true" else "false")
  | .number value => .scalar value.render true
  | .text content => .scalar (content.getD "").toList false
  | .array items => .sequence (Node.ofItems items)
  | .object members => .mapping (Node.ofMembers members)

def Node.ofItems : List Value → List Node
  | [] => []
  | item :: items => Node.ofJson item :: Node.ofItems items

def Node.ofMembers : List (Option String × Value) → List (Node × Node)
  | [] => []
  | (key, value) :: members =>
    (.scalar (key.getD "").toList false, Node.ofJson value) :: Node.ofMembers members

end

def plainToJson (text : List Char) : Value :=
  if isNull text then .null
  else match readBool? text, readInteger? text with
    | some value, _ => .bool value
    | none, some value => .int value
    | none, none => .str (String.ofList text)

mutual

def Node.toJson : Node → Value
  | .scalar text true => plainToJson text
  | .scalar text false => .str (String.ofList text)
  | .sequence items => .array (Node.toItems items)
  | .mapping pairs => .object (Node.toMembers pairs)

def Node.toItems : List Node → List Value
  | [] => []
  | item :: items => Node.toJson item :: Node.toItems items

def Node.toMembers : List (Node × Node) → List (Option String × Value)
  | [] => []
  | (.scalar key _, value) :: pairs =>
    (some (String.ofList key), Node.toJson value) :: Node.toMembers pairs
  | (_, _) :: pairs => Node.toMembers pairs

end

end GpuShare.Yaml
