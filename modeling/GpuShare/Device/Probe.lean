import GpuShare.Text.Utf8
import GpuShare.Device.Listing
import GpuShare.Device.Tool

/-!
Finding the devices of a node. The GPUs come from the management library; whether they are
partitioned, and into which instances, comes from the listing of a tool.
-/

set_option autoImplicit false

namespace GpuShare.Device

open Text

/-- What the management library answers about one device; none where a query fails. -/
structure LibraryDevice where
  uuid : Option String
  name : Option String
  -- Memory in bytes.
  memory : Option UInt64
  deriving Repr, DecidableEq

structure Library where
  count : Option Nat
  -- The devices by index, none where no device can be opened.
  devices : List (Option LibraryDevice)
  deriving Repr, DecidableEq

namespace Library

def expect {α : Type} (answer : Option α) (what : String) : Except InventoryError α :=
  match answer with
  | some a => .ok a
  | none => .error (.query what)

def device (library : Library) (index : Nat) : Except InventoryError Gpu := do
  let text := decimal index
  let device ← expect (library.devices[index]?.getD none) ("device " ++ text)
  let uuid ← expect device.uuid ("uuid of device " ++ text)
  let model ← expect device.name ("name of device " ++ text)
  let memory ← expect device.memory ("memory of device " ++ text)
  return ⟨UInt32.ofNat index, uuid, model, memory / 1048576, false, true⟩

def gpus (library : Library) : Except InventoryError (List Gpu) := do
  let count ← expect library.count "device count"
  (List.range count).mapM library.device

end Library

def listingProgram : String := "nvidia-smi"

def listing : Attempt Tool.interface InventoryError (List ListedGpu) := do
  let arguments := ["-L"]
  let line := Tool.commandLine listingProgram arguments
  match ← Tool.run listingProgram arguments with
  | none => throw (.command line none)
  | some output =>
    if output.exitCode = 0 then return Listing.read (utf8Lossy output.stdout)
    else throw (.command line (some (utf8Lossy output.stderr)))

def isPartitioned (listed : List ListedGpu) (uuid : String) : Bool :=
  listed.any fun gpu => gpu.uuid == uuid && !gpu.instances.isEmpty

/-- The GPUs of the node. A listing that fails shows no instances. -/
def probeGpus (library : Library) : Attempt Tool.interface InventoryError (List Gpu) := do
  let gpus ← ExceptT.mk (.done library.gpus)
  let listed : Except InventoryError (List ListedGpu) ← Attempt.outcome listing
  let listed := match listed with
    | .ok gpus => gpus
    | .error _ => []
  return gpus.map fun gpu => { gpu with migEnabled := isPartitioned listed gpu.uuid }

def probeInstances : Attempt Tool.interface InventoryError (List MigInstance) := do
  return Listing.instances (← listing)

end GpuShare.Device
