import GpuShare.Program
import GpuShare.Cluster.Call
import GpuShare.Device.Inventory
import GpuShare.File.Disk
import GpuShare.Mig.Partition
import GpuShare.Region.Basic
import GpuShare.Time.Rfc3339

/-!
What the agent asks of its surroundings: calls on the cluster, the clock, the devices and their
partition, and the file system. Every activity of the agent is a program over this one interface, so
activities can be run alone, interleaved, or against surroundings that fail.
-/

set_option autoImplicit false

namespace GpuShare

inductive PartitionToolError where
  -- The tool cannot be started.
  | command (line : String)
  -- The tool ends with a failure.
  | failed (line status : String) (stderr : Option String)
  -- A partition document cannot be read, or not be written to a path.
  | document (writing : Option String)
  deriving Repr, DecidableEq

namespace PartitionToolError

def code : PartitionToolError → String
  | command .. => "Command"
  | failed .. => "Failed"
  | document .. => "Spec"

def message : PartitionToolError → String
  | command line => "failed to run " ++ line
  | failed line status _ => line ++ " exited with " ++ status
  | document _ => "failed to handle partition spec"

def notes : PartitionToolError → List String
  | failed _ _ (some stderr) => [stderr]
  | document (some path) => ["writing " ++ path]
  | _ => []

instance : Explain PartitionToolError where
  explain error := [⟨error.code, error.message, error.notes⟩]

end PartitionToolError

namespace Agent

inductive Request where
  | cluster (call : Cluster.Call)
  | now
  | sleep (milliseconds : Nat)
  | gpus
  | migInstances
  | exportPartition
  -- Puts the current configuration of a partition in force.
  | applyPartition (partition : Mig.Partition)
  -- A text that was not given before.
  | freshId
  -- Makes a directory that everyone may use, with those above it.
  | makeSharedDirectory (path : Path)
  | readFile (path : Path)
  | pathExists (path : Path)
  | isDirectory (path : Path)
  | readDirectory (path : Path)
  | removeTree (path : Path)
  -- Maps a region file: the number of its content.
  | mapRegion (path : Path)

abbrev Answer : Request → Type
  | .cluster call => call.Answer
  | .now => Time.Instant
  | .sleep _ => Unit
  | .gpus => Except InventoryError (List Device.Gpu)
  | .migInstances => Except InventoryError (List Device.MigInstance)
  | .exportPartition => Except PartitionToolError Mig.Partition
  | .applyPartition _ => Except PartitionToolError Unit
  | .freshId => String
  | .makeSharedDirectory _ => Except FileError Unit
  | .readFile _ => Except FileError (List UInt8)
  | .pathExists _ => Bool
  | .isDirectory _ => Bool
  | .readDirectory _ => Except FileError (List String)
  | .removeTree _ => Except FileError Unit
  | .mapRegion _ => Except RegionError Nat

abbrev interface : Interface := ⟨Request, Answer⟩

abbrev Action (ε α : Type) := Attempt interface ε α

def ask {ε : Type} (request : Request) : Action ε (Answer request) :=
  Attempt.lift (.request (I := interface) request)

def orFail {ε δ α : Type} (f : ε → δ) : Except ε α → Action δ α
  | .ok a => pure a
  | .error e => throw (f e)

def callOr {ε : Type} (f : ClusterError → ε) (call : Cluster.Call) : Action ε call.Reply := do
  orFail f (← ask (.cluster call))

end Agent

end GpuShare
