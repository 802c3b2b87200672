import GpuShare.Agent.Surroundings
import GpuShare.Mig.Geometry
import GpuShare.Mig.Reference

/-!
Resolving references to instances. The device of a reference is partitioned the way its geometry says,
unless it already is; then the instance at the position is looked up. The partition in force is
exported once and then remembered, with every change that was applied.
-/

set_option autoImplicit false

namespace GpuShare

open Text

inductive MigError where
  | invalidReference (uuid : String) (flaw : Mig.Reference.Flaw)
  | unknownDevice (uuid : String) (cause : InventoryError)
  | unknownModel (model : String)
  | unknownGroup (group model : String)
  | positionOutOfRange (group : String) (position : UInt32) (available : Nat)
  -- No entry of the partition covers the device, or there is no partition to look at.
  | noPartition (index : UInt32) (cause : Option PartitionToolError)
  | instanceMissing (uuid : String) (position : UInt32)
  | inventory (cause : InventoryError)
  | apply (cause : PartitionToolError)
  deriving Repr, DecidableEq

namespace MigError

def code : MigError → String
  | invalidReference .. => "InvalidReference"
  | unknownDevice .. => "UnknownDevice"
  | unknownModel .. => "UnknownModel"
  | unknownGroup .. => "UnknownGroup"
  | positionOutOfRange .. => "PositionOutOfRange"
  | noPartition .. => "NoPartition"
  | instanceMissing .. => "InstanceMissing"
  | inventory .. => "Inventory"
  | apply .. => "Apply"

/-- The count of instances that is shown: it has 32 bits. -/
def shownCount (available : Nat) : Nat := min available 4294967295

def message : MigError → String
  | invalidReference uuid flaw => "invalid geometry reference `" ++ uuid ++ "`: " ++ flaw.text
  | unknownDevice uuid _ => "device " ++ uuid ++ " not found"
  | unknownModel model => "no geometries configured for model `" ++ model ++ "`"
  | unknownGroup group model =>
    "geometry group `" ++ group ++ "` not configured for model `" ++ model ++ "`"
  | positionOutOfRange group position available =>
    "position " ++ decimal position.toNat ++ " out of range, geometry `" ++ group ++ "` has " ++
      decimal (shownCount available) ++ " instances"
  | noPartition index _ => "no partition entry for device index " ++ decimal index.toNat
  | instanceMissing uuid position =>
    "no MIG instance at position " ++ decimal position.toNat ++ " on device " ++ uuid
  | inventory _ => "failed to query the GPU inventory"
  | apply _ => "failed to apply MIG partition"

def severity : MigError → Severity
  | invalidReference .. | unknownModel .. | unknownGroup .. | positionOutOfRange .. => .mismatch
  | unknownDevice .. | noPartition .. | instanceMissing .. => .notFound
  | apply .. => .transient
  | inventory .. => .fatal

def causes : MigError → List Diagnostic
  | unknownDevice _ cause | inventory cause => explain cause
  | noPartition _ (some cause) | apply cause => explain cause
  | _ => []

instance : Explain MigError where
  explain error := ⟨error.code, error.message, []⟩ :: error.causes

def ofInventory : InventoryError → MigError
  | .deviceNotFound uuid => unknownDevice uuid (.deviceNotFound uuid)
  | cause => inventory cause

end MigError

namespace Mig

/-- The geometry of a group for a model: of the first geometries that suit the model, the first of
the group. -/
def findGeometry (allowed : List ModelGeometries) (model group : String) :
    Except MigError Geometry :=
  match allowed.find? (·.suits model) with
  | none => .error (.unknownModel model)
  | some suited =>
    match suited.geometries.find? (·.group == group) with
    | none => .error (.unknownGroup group model)
    | some geometry => .ok geometry

end Mig

namespace Agent

open Mig

namespace MigResolver

def exportCurrent (index : UInt32) : Action MigError Partition := do
  let exported ← orFail (fun cause => .noPartition index (some cause)) (← ask .exportPartition)
  let gpus ← orFail .ofInventory (← ask .gpus)
  return exported.expand gpus.length

def current (remembered : Option Partition) (index : UInt32) : Action MigError Partition :=
  match remembered with
  | some partition => pure partition
  | none => exportCurrent index

def locate (partition : Partition) (index : UInt32) :
    Except MigError (List PartitionEntry × Nat × PartitionEntry) :=
  match partition.current? with
  | none => .error (.noPartition index none)
  | some entries =>
    match entryPosition? entries index with
    | none => .error (.noPartition index none)
    | some position =>
      match entries[position]? with
      | none => .error (.noPartition index none)
      | some entry => .ok (entries, position, entry)

def ensureGeometry (partition : Partition) (index : UInt32) (geometry : Geometry) :
    Action MigError Partition := do
  let (entries, position, entry) ← ExceptT.mk (.done (locate partition index))
  if entry.suits geometry then return partition
  else
    let changed := partition.setCurrent (repartition entries position index geometry)
    orFail .apply (← ask (.applyPartition changed))
    return changed

def lookUp (allowed : List ModelGeometries) (reference : Reference) :
    Action MigError (Device.Gpu × Geometry) := do
  let gpus ← orFail .ofInventory (← ask .gpus)
  let device ← orFail .ofInventory (Device.findGpu gpus reference.deviceUuid)
  let geometry ← orFail id (findGeometry allowed device.model reference.group)
  if reference.position.toNat < geometry.size then return (device, geometry)
  else throw (.positionOutOfRange reference.group reference.position geometry.size)

def findInstance (reference : Reference) (device : Device.Gpu) : Action MigError String := do
  let instances ← orFail .ofInventory (← ask .migInstances)
  match Device.instanceAt instances device.index reference.position with
  | some uuid => return uuid
  | none => throw (.instanceMissing reference.deviceUuid reference.position)

/-- Resolves a device ID, given the remembered partition: the ID to hand out, and the partition to
remember. What was exported is remembered even if the change is then refused. -/
def resolve (allowed : List ModelGeometries) (remembered : Option Partition) (id : String) :
    Program interface (Except MigError String × Option Partition) :=
  if Reference.isEncoded id then do
    match Reference.parse id with
    | .error flaw => return (.error (.invalidReference id flaw), remembered)
    | .ok reference =>
      match ← (lookUp allowed reference).run with
      | .error error => return (.error error, remembered)
      | .ok (device, geometry) =>
        match ← (current remembered device.index).run with
        | .error error => return (.error error, remembered)
        | .ok partition =>
          match ← (ensureGeometry partition device.index geometry).run with
          | .error error => return (.error error, some partition)
          | .ok changed => return (← (findInstance reference device).run, some changed)
  else return (.ok id, remembered)

end MigResolver

end Agent

end GpuShare
