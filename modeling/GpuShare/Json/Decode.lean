import GpuShare.Json.Value

/-!
Typed views of JSON values. Every view refuses a value of another shape; nothing is converted except
an integer to a floating point number.
-/

set_option autoImplicit false

namespace GpuShare.Json.Value

def string? : Value → Option String
  | .text content => content
  | _ => none

def bool? : Value → Option Bool
  | .bool value => some value
  | _ => none

def int? : Value → Option Int
  | .number n => n.toInt?
  | _ => none

def uint32? (value : Value) : Option UInt32 :=
  value.int?.bind fun i => if 0 ≤ i ∧ i < 4294967296 then some (UInt32.ofNat i.toNat) else none

def int32? (value : Value) : Option Int32 :=
  value.int?.bind fun i =>
    if -2147483648 ≤ i ∧ i ≤ 2147483647 then some (Int32.ofInt i) else none

def float? : Value → Option Float
  | .number n => n.toFloat?
  | _ => none

def list? {α : Type} (view : Value → Option α) : Value → Option (List α)
  | .array items => items.mapM view
  | _ => none

def nullable? {α : Type} (view : Value → Option α) : Value → Option (Option α)
  | .null => some none
  | value => (view value).map some

/-- A map from text, in the order written; a repeated key keeps its last value when it is looked
up. -/
def map? {α : Type} (view : Value → Option α) : Value → Option (List (String × α))
  | .object members => members.mapM fun member => do
      return (← member.1, ← view member.2)
  | _ => none

/-- The values of named fields. An object gives each field at most once and may have others; an
array gives them by position and may end early. -/
def fields? (names : List String) : Value → Option (List (Option Value))
  | .object members =>
    if members.all fun member => member.1.isSome then
      names.mapM fun name =>
        match members.filter fun member => member.1 = some name with
        | [] => some none
        | [member] => some (some member.2)
        | _ => none
    else none
  | .array items =>
    if items.length ≤ names.length then
      some (items.map some ++ List.replicate (names.length - items.length) none)
    else none
  | _ => none

def required? {α : Type} (view : Value → Option α) (field : Option Value) : Option α :=
  field.bind view

def orElse? {α : Type} (absent : α) (view : Value → Option α) : Option Value → Option α
  | none => some absent
  | some value => view value

end GpuShare.Json.Value
