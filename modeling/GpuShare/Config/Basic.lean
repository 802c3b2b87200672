import GpuShare.Text.Decimal
import GpuShare.Diagnostic
import GpuShare.Cluster.Call
import GpuShare.File.Path
import GpuShare.Mig.Geometry

/-!
The configuration of an agent: what the administrator writes for all nodes and for one node, and the
values that follow from both. A value for the node wins, and a missing or zero value leaves the built-in
one.
-/

set_option autoImplicit false

namespace GpuShare

inductive ConfigError where
  | read (source : String) (notes : List String) (cause : Option ClusterError)
  | parse (source : String)
  | invalidValue (field value : String)
  deriving Repr, DecidableEq

namespace ConfigError

def code : ConfigError → String
  | read .. => "Read"
  | parse .. => "Parse"
  | invalidValue .. => "InvalidValue"

def message : ConfigError → String
  | read source _ _ => "failed to read configuration from " ++ source
  | parse source => "failed to parse configuration from " ++ source
  | invalidValue field value => "invalid value `" ++ value ++ "` for " ++ field

instance : Explain ConfigError where
  explain
    | error@(.read _ notes cause) =>
      ⟨error.code, error.message, notes⟩ ::
        match cause with
        | some cause => explain cause
        | none => []
    | error => [⟨error.code, error.message, []⟩]

end ConfigError

inductive OperatingMode where
  -- Shared devices, limited by a library in the container.
  | hamiCore
  -- Whole instances of partitioned devices.
  | mig
  deriving Repr, DecidableEq

namespace OperatingMode

def text : OperatingMode → String
  | hamiCore => "hami-core"
  | mig => "mig"

def parse (value : String) : Except ConfigError OperatingMode :=
  if value = "hami-core" then .ok hamiCore
  else if value = "mig" then .ok mig
  else .error (.invalidValue "operating mode" value)

theorem parse_text (mode : OperatingMode) : parse mode.text = .ok mode := by
  cases mode <;> rfl

end OperatingMode

inductive MigStrategy where
  | none
  | single
  | mixed
  deriving Repr, DecidableEq

namespace MigStrategy

def text : MigStrategy → String
  | none => "none"
  | single => "single"
  | mixed => "mixed"

def parse (value : String) : Except ConfigError MigStrategy :=
  if value = "none" then .ok none
  else if value = "single" then .ok single
  else if value = "mixed" then .ok mixed
  else .error (.invalidValue "MIG strategy" value)

theorem parse_text (strategy : MigStrategy) : parse strategy.text = .ok strategy := by
  cases strategy <;> rfl

end MigStrategy

structure DeviceFilter where
  uuids : List String := []
  indices : List UInt32 := []
  deriving Repr, DecidableEq

def DeviceFilter.excludes (filter : DeviceFilter) (uuid : String) (index : UInt32) : Bool :=
  filter.uuids.contains uuid || filter.indices.contains index

structure ClusterConfig where
  countName : String := ""
  memoryName : String := ""
  coreName : String := ""
  priorityName : String := ""
  splitCount : UInt32 := 0
  memoryScaling : Float := 0
  memoryFactor : UInt32 := 0
  migStrategy : String := ""
  geometries : List Mig.ModelGeometries := []

structure NodeConfig where
  name : String := ""
  operatingMode : String := ""
  memoryScaling : Float := 0
  splitCount : UInt32 := 0
  migStrategy : String := ""
  filter : Option DeviceFilter := none

structure HostPaths where
  hook : Path := ⟨"/usr/local/vgpu"⟩
  containers : Path := ⟨"/tmp/vgpu/containers"⟩
  lock : Path := ⟨"/tmp/vgpulock"⟩
  migConfig : Path := ⟨"/tmp/migconfig.yaml"⟩
  deriving Repr, DecidableEq

structure AgentConfig where
  node : String
  countName : String
  memoryName : String
  coreName : String
  priorityName : String
  splitCount : UInt32
  memoryScaling : Float
  memoryFactor : UInt32
  mode : OperatingMode
  strategy : MigStrategy
  geometries : List Mig.ModelGeometries
  filter : DeviceFilter
  paths : HostPaths

namespace AgentConfig

def defaultCountName : String := "volcano.sh/vgpu-number"
def defaultMemoryName : String := "volcano.sh/vgpu-memory"
def defaultCoreName : String := "volcano.sh/vgpu-cores"
def defaultPriorityName : String := "volcano.sh/vgpu-priority"
def defaultSplitCount : UInt32 := 10

def textOr (default text : String) : String := if text = "" then default else text

def countOr (default count : UInt32) : UInt32 := if count = 0 then default else count

def scalingOr (default scaling : Float) : Float := if 0 < scaling then scaling else default

def resolve (node : String) (cluster : ClusterConfig) (written : Option NodeConfig)
    (paths : HostPaths) : Except ConfigError AgentConfig := do
  let own := written.getD {}
  let mode ← if own.operatingMode = "" then .ok .hamiCore else OperatingMode.parse own.operatingMode
  let strategy := textOr cluster.migStrategy own.migStrategy
  let strategy ← if strategy = "" then .ok .none else MigStrategy.parse strategy
  return {
    node := node
    countName := textOr defaultCountName cluster.countName
    memoryName := textOr defaultMemoryName cluster.memoryName
    coreName := textOr defaultCoreName cluster.coreName
    priorityName := textOr defaultPriorityName cluster.priorityName
    splitCount := countOr defaultSplitCount (countOr cluster.splitCount own.splitCount)
    memoryScaling := scalingOr (scalingOr 1 cluster.memoryScaling) own.memoryScaling
    memoryFactor := countOr 1 cluster.memoryFactor
    mode := mode
    strategy := strategy
    geometries := cluster.geometries
    filter := own.filter.getD {}
    paths := paths }

end AgentConfig

end GpuShare
