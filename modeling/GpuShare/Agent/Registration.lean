import GpuShare.Wire.Codec
import GpuShare.Config.Basic
import GpuShare.Agent.World

/-!
Registration: a node advertises the devices that may be shared, in an annotation that the scheduler
reads, and gives a sign of life with it. That is repeated, sooner after a failure.
-/

set_option autoImplicit false

namespace GpuShare

inductive RegisterError where
  | inventory (cause : InventoryError)
  | nodeUpdate (node : String) (cause : ClusterError)
  deriving Repr, DecidableEq

namespace RegisterError

def code : RegisterError → String
  | inventory .. => "Inventory"
  | nodeUpdate .. => "NodeUpdate"

def message : RegisterError → String
  | inventory _ => "failed to enumerate devices"
  | nodeUpdate node _ => "failed to update node " ++ node

instance : Explain RegisterError where
  explain error :=
    ⟨error.code, error.message, []⟩ ::
      match error with
      | .inventory cause => explain cause
      | .nodeUpdate _ cause => explain cause

end RegisterError

namespace Agent.Registration

open Wire

def maxCount : Nat := 2147483647

def capped (n : Nat) : Int32 := Int32.ofNat (min n maxCount)

/-- Memory of a device in MiB, scaled unless instances are offered. -/
def scaledMemory (config : AgentConfig) (gpu : Device.Gpu) : UInt64 :=
  if config.strategy = .none then (gpu.memoryMib.toFloat * config.memoryScaling).toUInt64
  else gpu.memoryMib

/-- A device as it is advertised: its memory in whole units of the factor. -/
def advert (config : AgentConfig) (gpu : Device.Gpu) : Advert where
  id := gpu.uuid
  count := capped config.splitCount.toNat
  memory := capped ((scaledMemory config gpu).toNat / max config.memoryFactor.toNat 1)
  deviceType := "NVIDIA-" ++ gpu.model
  healthy := gpu.healthy
  mode := config.mode.text

def adverts (config : AgentConfig) (gpus : List Device.Gpu) : List Advert :=
  (gpus.filter fun gpu => !config.filter.excludes gpu.uuid gpu.index).map (advert config)

def handshake (now : Time.Instant) : String := "Reported " ++ now.display

def annotations (adverts : List Advert) (now : Time.Instant) : Cluster.Patch :=
  (Cluster.Patch.one nodeHandshake (some (handshake now))).insert nodeRegister
    (some (Advert.encodeAll adverts))

def register (config : AgentConfig) : Action RegisterError (List Advert) := do
  let adverts := adverts config (← orFail .inventory (← ask .gpus))
  let changes := annotations adverts (← ask .now)
  let _ ← callOr (.nodeUpdate config.node) (.patchNode config.node changes none)
  return adverts

def interval : Nat := 30000

def retryInterval : Nat := 5000

def delayAfter {α : Type} : Except RegisterError α → Nat
  | .ok _ => interval
  | .error _ => retryInterval

def round (config : AgentConfig) : Program interface Unit := do
  let outcome ← (register config).run
  Program.request (I := interface) (.sleep (delayAfter outcome))

/-- The world after rounds until `deadline`, in milliseconds waited. The first round always happens. -/
def runUntil (config : AgentConfig) (deadline : Nat) : Nat → World → World
  | 0, world => world
  | fuel + 1, world =>
    let world := ((round config).run (I := interface) World.serve world).2
    if world.waited < deadline then runUntil config deadline fuel world else world

/-- Registers again and again until `deadline`: every round takes one retry interval or more. -/
def run (config : AgentConfig) (deadline : Nat) (world : World) : World :=
  runUntil config deadline (deadline / retryInterval + 1) world

end Agent.Registration

end GpuShare
