import GpuShare.Text.Split
import GpuShare.Text.Blank
import GpuShare.Text.Decimal

/-!
References to an instance that need not exist yet: a device, a geometry group and a position among the
group's instances, written `device[group-position]`. The group may contain dashes and brackets.
-/

set_option autoImplicit false

namespace GpuShare.Mig

open Text

structure Reference where
  deviceUuid : String
  group : String
  position : UInt32
  deriving Repr, DecidableEq

namespace Reference

inductive Flaw where
  | noOpening
  | noClosing
  | noDash
  | noDevice
  | noGroup
  | badPosition
  deriving Repr, DecidableEq

def Flaw.text : Flaw → String
  | noOpening => "missing '['"
  | noClosing => "missing trailing ']'"
  | noDash => "missing '-' between group and position"
  | noDevice => "missing device uuid"
  | noGroup => "missing template group name"
  | badPosition => "position is not a number"

def isEncoded (id : String) : Bool := id.toList.contains '['

def orFlaw {α : Type} (flaw : Flaw) : Option α → Except Flaw α
  | some a => .ok a
  | none => .error flaw

/-- Reads a reference. The position follows the last dash. -/
def parse (id : String) : Except Flaw Reference := do
  let (device, rest) ← orFlaw .noOpening (splitFirst? '[' id.toList)
  let inner ← orFlaw .noClosing (stripLast? ']' rest)
  let (group, position) ← orFlaw .noDash (splitLast? '-' inner)
  if device.isEmpty then throw .noDevice
  let group := trim group
  if group.isEmpty then throw .noGroup
  let position ← orFlaw .badPosition (readUInt32? (trim position))
  return ⟨String.ofList device, String.ofList group, position⟩

end Reference

end GpuShare.Mig
