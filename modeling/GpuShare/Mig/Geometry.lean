import GpuShare.Text.Split
import GpuShare.Mig.Partition

/-!
Geometries: named ways to slice a device, allowed for models by a fragment of their name.
-/

set_option autoImplicit false

namespace GpuShare.Mig

open Text

structure Template where
  name : String
  -- Memory of an instance in MiB.
  memory : Int32
  count : Int32
  deriving Repr, DecidableEq

structure Geometry where
  group : String
  instances : List Template
  deriving Repr, DecidableEq

structure ModelGeometries where
  -- Fragments of model names.
  models : List String
  geometries : List Geometry
  deriving Repr, DecidableEq

def ModelGeometries.suits (allowed : ModelGeometries) (model : String) : Bool :=
  allowed.models.any fun fragment => occursIn fragment.toList model.toList

/-- Number of instances of a geometry; a negative count is none. -/
def Geometry.size (geometry : Geometry) : Nat :=
  geometry.instances.foldl (fun total template => total + template.count.toInt.toNat) 0

def Geometry.counts (geometry : Geometry) : Dictionary Int32 :=
  .ofList (geometry.instances.map fun template => (template.name, template.count))

/-- Whether an entry has as many instances of each template as the geometry wants. -/
def PartitionEntry.suits (entry : PartitionEntry) (geometry : Geometry) : Bool :=
  geometry.instances.all fun template => entry.instances.get? template.name == some template.count

def Geometry.entry (geometry : Geometry) (index : UInt32) : PartitionEntry :=
  ⟨.indices [index], true, geometry.counts⟩

/-- Gives a device its geometry in the entry at a position, which covers it. An entry of several
devices keeps the others, and the device gets an entry of its own at the end. -/
def repartition (entries : List PartitionEntry) (position : Nat) (index : UInt32)
    (geometry : Geometry) : List PartitionEntry :=
  match entries[position]? with
  | some ⟨.indices (first :: second :: rest), enabled, instances⟩ =>
    entries.set position
      ⟨.indices ((first :: second :: rest).filter (· != index)), enabled, instances⟩ ++
      [geometry.entry index]
  | _ => entries.set position (geometry.entry index)

def entryPosition? (entries : List PartitionEntry) (index : UInt32) : Option Nat :=
  entries.findIdx? (·.devices.contains index)

end GpuShare.Mig
