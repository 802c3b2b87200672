import GpuShare.Text.Hex
import GpuShare.Cluster.Store
import GpuShare.Agent.Surroundings

/-!
Surroundings in memory: a cluster, a clock, devices that stay as they are, a partition tool that
records what it is given, and a disk. Sleeping takes no time on the clock of stamps; it adds to the
time that was waited.
-/

set_option autoImplicit false

namespace GpuShare.Agent

open Text

/-- A tool for partitions that always exports the same and keeps what is applied, the latest
first. -/
structure PartitionTool where
  exported : Mig.Partition := default
  exportFailure : Option PartitionToolError := none
  applyFailure : Option PartitionToolError := none
  exports : Nat := 0
  applied : List Mig.Partition := []

structure World where
  connection : Cluster.Connection := {}
  -- Milliseconds slept before each call on the cluster, the latest first.
  callTimes : List Nat := []
  clock : Time.Instant := 0
  -- Milliseconds slept.
  waited : Nat := 0
  inventory : Device.Inventory := {}
  partitionTool : PartitionTool := {}
  disk : Disk := .empty
  -- Identifiers given so far.
  idsGiven : Nat := 0

namespace World

/-- Nanoseconds that pass between two looks at the clock. -/
def clockStep : Int := 1000

def identifier (n : Nat) : String :=
  String.ofList ("00000000-0000-4000-8000-".toList ++ hexDigits 12 n)

def sharedMode : Nat := 0o777

def mapStore (world : World) (f : Cluster.Store → Cluster.Store) : World :=
  { world with connection := { world.connection with store := f world.connection.store } }

def addFaults (world : World) (faults : List Cluster.Fault) : World :=
  { world with connection := { world.connection with faults := world.connection.faults ++ faults } }

/-- Maps the region file at a path: its content's number, once its header is checked. -/
def mapRegion (disk : Disk) (path : Path) : Except RegionError Nat :=
  match disk.content? path with
  | .error .notFound => .error (.notFound path.text)
  | .error error => .error (.io path.text error.text)
  | .ok content => (Region.ofBytes (disk.bytes content)).map fun _ => content

def serve : (request : Request) → World → Answer request × World
  | .cluster call, world =>
    let (answer, connection) := world.connection.serve call
    (answer, { world with
      connection := connection
      callTimes := world.waited :: world.callTimes })
  | .now, world => (world.clock, { world with clock := world.clock + clockStep })
  | .sleep milliseconds, world => ((), { world with waited := world.waited + milliseconds })
  | .gpus, world => (world.inventory.listGpus, world)
  | .migInstances, world => (world.inventory.listInstances, world)
  | .exportPartition, world =>
    let tool := world.partitionTool
    let answer := match tool.exportFailure with
      | some error => .error error
      | none => .ok tool.exported
    (answer, { world with partitionTool := { tool with exports := tool.exports + 1 } })
  | .applyPartition partition, world =>
    let tool := world.partitionTool
    match tool.applyFailure with
    | some error => (.error error, world)
    | none =>
      (.ok (), { world with
        partitionTool := { tool with applied := partition :: tool.applied } })
  | .freshId, world =>
    (identifier world.idsGiven, { world with idsGiven := world.idsGiven + 1 })
  | .makeSharedDirectory path, world =>
    match world.disk.makeDirectories path with
    | (.error error, disk) => (.error error, { world with disk := disk })
    | (.ok (), disk) => (.ok (), { world with disk := disk.setMode path sharedMode })
  | .readFile path, world => ((world.disk.readBytes path).map (·.toList), world)
  | .pathExists path, world => (world.disk.pathExists path, world)
  | .isDirectory path, world => (world.disk.isDirectory path, world)
  | .readDirectory path, world => (world.disk.readDirectory path, world)
  | .removeTree path, world =>
    let (answer, disk) := world.disk.removeTree path
    (answer, { world with disk := disk })
  | .mapRegion path, world => (mapRegion world.disk path, world)

def run {ε α : Type} (world : World) (action : Action ε α) : Except ε α × World :=
  Program.run (I := interface) serve (ExceptT.run action) world

end World

end GpuShare.Agent
