import GpuShare.Diagnostic

/-!
What is known about the GPUs of a node and their MIG instances, and the look-ups on it.
-/

set_option autoImplicit false

namespace GpuShare

namespace Device

structure Gpu where
  index : UInt32
  uuid : String
  model : String
  memoryMib : UInt64
  migEnabled : Bool
  healthy : Bool
  deriving Repr, DecidableEq

structure MigInstance where
  parentIndex : UInt32
  parentUuid : String
  position : UInt32
  uuid : String
  -- Size of the instance, such as `1g.10gb`.
  profile : String
  deriving Repr, DecidableEq

end Device

inductive InventoryError where
  | unavailable
  | query (what : String)
  | deviceNotFound (uuid : String)
  -- A tool cannot be run, or fails with a text.
  | command (line : String) (stderr : Option String)
  deriving Repr, DecidableEq

namespace InventoryError

def code : InventoryError → String
  | unavailable => "Unavailable"
  | query .. => "Query"
  | deviceNotFound .. => "DeviceNotFound"
  | command .. => "Command"

def message : InventoryError → String
  | unavailable => "NVML is not available"
  | query what => "failed to query " ++ what
  | deviceNotFound uuid => "device " ++ uuid ++ " not found"
  | command line _ => "failed to run " ++ line

def notes : InventoryError → List String
  | .command _ (some stderr) => [stderr]
  | _ => []

instance : Explain InventoryError where
  explain error := [⟨error.code, error.message, error.notes⟩]

end InventoryError

namespace Device

def findGpu (gpus : List Gpu) (uuid : String) : Except InventoryError Gpu :=
  match gpus.find? (·.uuid == uuid) with
  | some gpu => .ok gpu
  | none => .error (.deviceNotFound uuid)

def instanceAt (instances : List MigInstance) (parentIndex position : UInt32) : Option String :=
  (instances.find? fun mig => mig.parentIndex == parentIndex && mig.position == position).map
    (·.uuid)

/-- Devices that stay as they are; asking for them may be made to fail. -/
structure Inventory where
  gpus : List Gpu := []
  instances : List MigInstance := []
  gpusFailure : Option InventoryError := none
  instancesFailure : Option InventoryError := none

namespace Inventory

def listGpus (inventory : Inventory) : Except InventoryError (List Gpu) :=
  match inventory.gpusFailure with
  | some error => .error error
  | none => .ok inventory.gpus

def listInstances (inventory : Inventory) : Except InventoryError (List MigInstance) :=
  match inventory.instancesFailure with
  | some error => .error error
  | none => .ok inventory.instances

def gpuByUuid (inventory : Inventory) (uuid : String) : Except InventoryError Gpu := do
  findGpu (← inventory.listGpus) uuid

def uuidAt (inventory : Inventory) (parentIndex position : UInt32) :
    Except InventoryError (Option String) :=
  inventory.listInstances.map fun instances => instanceAt instances parentIndex position

end Inventory

end Device

end GpuShare
