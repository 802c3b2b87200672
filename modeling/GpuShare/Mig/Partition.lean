import GpuShare.Dictionary

/-!
Partitions of the node's devices: named configurations, each a list of entries that say which
instances exist on which devices.
-/

set_option autoImplicit false

namespace GpuShare.Mig

inductive Selector where
  | all
  | indices (indices : List UInt32)
  deriving Repr, DecidableEq

def Selector.contains : Selector → UInt32 → Bool
  | all, _ => true
  | indices list, index => list.contains index

structure PartitionEntry where
  devices : Selector
  enabled : Bool
  instances : Dictionary Int32
  deriving Repr, DecidableEq

structure Partition where
  version : String
  configs : Dictionary (List PartitionEntry)
  deriving Repr, DecidableEq

instance : Inhabited Partition := ⟨⟨"v1", .empty⟩⟩

def currentConfig : String := "current"

def indicesBelow (count : Nat) : List UInt32 := (List.range count).map UInt32.ofNat

/-- A selector of all devices as the list of their indices; so is an empty list. -/
def Selector.expand (count : Nat) : Selector → Selector
  | all => .indices (indicesBelow count)
  | indices [] => .indices (indicesBelow count)
  | indices list => .indices list

def PartitionEntry.expand (count : Nat) (entry : PartitionEntry) : PartitionEntry :=
  { entry with devices := entry.devices.expand count }

def Partition.expand (count : Nat) (partition : Partition) : Partition :=
  { partition with configs := partition.configs.map fun entries => entries.map (·.expand count) }

def Partition.current? (partition : Partition) : Option (List PartitionEntry) :=
  partition.configs.get? currentConfig

def Partition.setCurrent (partition : Partition) (entries : List PartitionEntry) : Partition :=
  { partition with configs := partition.configs.insert currentConfig entries }

end GpuShare.Mig
