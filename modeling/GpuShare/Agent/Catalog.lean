import GpuShare.Text.Decimal
import GpuShare.Config.Basic
import GpuShare.Agent.Surroundings

/-!
The resources that a node serves, and the device IDs of each. Without a strategy for instances every
device is served in shares, in slots of memory and in slots of cores; under the mixed strategy whole
devices and instances are served as they are.
-/

set_option autoImplicit false

namespace GpuShare

open Text

inductive CatalogError where
  | unsupported (strategy : MigStrategy)
  | inventory (cause : InventoryError)
  deriving Repr, DecidableEq

namespace CatalogError

def code : CatalogError → String
  | unsupported _ => "Unsupported"
  | inventory _ => "Inventory"

def message : CatalogError → String
  | unsupported strategy => "MIG strategy `" ++ strategy.text ++ "` is not supported"
  | inventory _ => "failed to enumerate devices"

instance : Explain CatalogError where
  explain error :=
    ⟨error.code, error.message, []⟩ ::
      match error with
      | .inventory cause => explain cause
      | _ => []

end CatalogError

namespace Agent

inductive ResourceKind where
  -- Devices or shares of them; handing these out follows the queue.
  | count
  | memory
  | cores
  | instances (profile : String)
  deriving Repr, DecidableEq

structure Resource where
  name : String
  kind : ResourceKind
  strategy : MigStrategy
  deriving Repr, DecidableEq

structure DeviceId where
  id : String
  healthy : Bool
  deriving Repr, DecidableEq

def instanceResource (profile : String) : String := "nvidia.com/mig-" ++ profile

def memorySlots : Nat := 32767

def coreSlots : Nat := 100

def ResourceKind.nameIn (config : AgentConfig) : ResourceKind → String
  | count => config.countName
  | memory => config.memoryName
  | cores => config.coreName
  | instances profile => instanceResource profile

def ResourceKind.resource (config : AgentConfig) (kind : ResourceKind) : Resource :=
  ⟨kind.nameIn config, kind, config.strategy⟩

/-- The profiles of some instances, each once, in ascending order. -/
def profilesOf (instances : List Device.MigInstance) : List String :=
  (Dictionary.ofList (instances.map fun mig => (mig.profile, ()))).keys

def mixedKinds (instances : List Device.MigInstance) : List ResourceKind :=
  .count :: (profilesOf instances).map .instances

def resources (config : AgentConfig) : Action CatalogError (List Resource) := do
  match config.strategy with
  | .none => return [ResourceKind.count, .memory, .cores].map (·.resource config)
  | .single => throw (.unsupported .single)
  | .mixed =>
    let instances ← orFail .inventory (← ask .migInstances)
    return (mixedKinds instances).map (·.resource config)

def slotIds (gpus : List Device.Gpu) (joint : String) (slots : Nat) : List DeviceId :=
  gpus.flatMap fun gpu =>
    (List.range slots).map fun slot => ⟨gpu.uuid ++ joint ++ decimal slot, gpu.healthy⟩

def wholeIds (gpus : List Device.Gpu) : List DeviceId :=
  (gpus.filter fun gpu => !gpu.migEnabled).map fun gpu => ⟨gpu.uuid, gpu.healthy⟩

def instanceIds (instances : List Device.MigInstance) (profile : String) : List DeviceId :=
  (instances.filter (·.profile == profile)).map fun mig => ⟨mig.uuid, true⟩

def shareIds (config : AgentConfig) (gpus : List Device.Gpu) : List DeviceId :=
  slotIds gpus "-" config.splitCount.toNat

def Resource.deviceIds (config : AgentConfig) (resource : Resource) :
    Action CatalogError (List DeviceId) := do
  let gpus ← orFail .inventory (← ask .gpus)
  match resource.kind with
  | .count =>
    return if resource.strategy = .mixed then wholeIds gpus else shareIds config gpus
  | .memory => return slotIds gpus "-memory-" memorySlots
  | .cores => return slotIds gpus "-core-" coreSlots
  | .instances profile =>
    return instanceIds (← orFail .inventory (← ask .migInstances)) profile

end Agent

end GpuShare
