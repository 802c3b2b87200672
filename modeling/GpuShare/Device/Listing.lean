import GpuShare.Text.Split
import GpuShare.Text.Blank
import GpuShare.Text.Decimal
import GpuShare.Device.Inventory

/-!
The text listing of GPUs and their MIG instances: a line for every GPU, followed by a line for every
instance on it. Lines of another form are skipped; an instance belongs to the last GPU that could be
read before it, and is dropped if there is none.
-/

set_option autoImplicit false

namespace GpuShare.Device

open Text

structure ListedInstance where
  position : UInt32
  profile : String
  uuid : String
  deriving Repr, DecidableEq

structure ListedGpu where
  index : UInt32
  name : String
  uuid : String
  instances : List ListedInstance
  deriving Repr, DecidableEq

namespace Listing

def field? (opening closing : String) (line : List Char) : Option (List Char) :=
  (between? opening.toList closing.toList line).map trim

def readGpu? (line : List Char) : Option ListedGpu := do
  let index ← (field? "GPU " ":" line).bind readUInt32?
  let name ← field? ": " " (UUID:" line
  let uuid ← field? "(UUID: " ")" line
  return ⟨index, String.ofList name, String.ofList uuid, []⟩

def readInstance? (line : List Char) : Option ListedInstance := do
  let profile ← (words line)[1]?
  let position ← (field? "Device" ":" line).bind readUInt32?
  let uuid ← field? "(UUID: " ")" line
  return ⟨position, String.ofList profile, String.ofList uuid⟩

def addInstance (listed : ListedInstance) (gpus : List ListedGpu) : List ListedGpu :=
  gpus.modify (gpus.length - 1) fun gpu => { gpu with instances := gpu.instances ++ [listed] }

def readLine (gpus : List ListedGpu) (line : List Char) : List ListedGpu :=
  let line := trim line
  if (stripStart? "GPU ".toList line).isSome then
    match readGpu? line with
    | some gpu => gpus ++ [gpu]
    | none => gpus
  else if (stripStart? "MIG ".toList line).isSome then
    match readInstance? line with
    | some listed => addInstance listed gpus
    | none => gpus
  else gpus

def read (text : String) : List ListedGpu := (lines text.toList).foldl readLine []

def instances (gpus : List ListedGpu) : List MigInstance :=
  gpus.flatMap fun gpu => gpu.instances.map fun mig =>
    ⟨gpu.index, gpu.uuid, mig.position, mig.uuid, mig.profile⟩

end Listing

end GpuShare.Device
