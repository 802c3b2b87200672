import GpuShare.Json.Reader
import GpuShare.Json.Decode
import GpuShare.Mig.Document
import GpuShare.Yaml.Json
import GpuShare.Config.Basic

/-!
The documents of the configuration: YAML for all nodes, JSON for single ones. Everything in them may be
left out, and unknown fields are passed over. What was read, and what follows from it, is shown as JSON;
how it shows a floating point number is up to the reader.
-/

set_option autoImplicit false

namespace GpuShare

open Yaml Json

def ClusterConfig.ofNode? (node : Node) : Option ClusterConfig := do
  let text := Node.orElse? "" Node.string?
  let count := Node.orElse? 0 Node.uint32?
  match ← node.fields? ["resourceCountName", "resourceMemoryName", "resourceCoreName",
      "resourcePriorityName", "deviceSplitCount", "deviceMemoryScaling", "gpuMemoryFactor",
      "migStrategy", "knownMigGeometries"] with
  | [countName, memoryName, coreName, priorityName, split, scaling, factor, strategy, known] =>
    return {
      countName := ← text countName
      memoryName := ← text memoryName
      coreName := ← text coreName
      priorityName := ← text priorityName
      splitCount := ← count split
      memoryScaling := ← Node.orElse? 0 Node.float? scaling
      memoryFactor := ← count factor
      migStrategy := ← text strategy
      geometries := ← Node.orElse? [] (Node.list? Mig.ModelGeometries.ofNode?) known }
  | _ => none

def ClusterConfig.read (source text : String) : Except ConfigError ClusterConfig :=
  let config := do
    match ← (← Node.read? text.toList).fields? ["nvidia"] with
    | [part] => Node.orElse? ({} : ClusterConfig) ClusterConfig.ofNode? part
    | _ => none
  match config with
  | some config => .ok config
  | none => .error (.parse source)

def DeviceFilter.ofJson? (value : Value) : Option DeviceFilter := do
  match ← value.fields? ["uuid", "index"] with
  | [uuids, indices] =>
    return ⟨← Value.orElse? [] (Value.list? Value.string?) uuids,
      ← Value.orElse? [] (Value.list? Value.uint32?) indices⟩
  | _ => none

def NodeConfig.ofJson? (value : Value) : Option NodeConfig := do
  let text := Value.orElse? "" Value.string?
  match ← value.fields? ["name", "operatingmode", "devicememoryscaling", "devicesplitcount",
      "migstrategy", "filterdevices"] with
  | [name, mode, scaling, split, strategy, filter] =>
    return {
      name := ← text name
      operatingMode := ← text mode
      memoryScaling := ← Value.orElse? 0 Value.float? scaling
      splitCount := ← Value.orElse? 0 Value.uint32? split
      migStrategy := ← text strategy
      filter := ← Value.orElse? none (Value.nullable? DeviceFilter.ofJson?) filter }
  | _ => none

/-- Reads the document for single nodes: the first entry for a node, if there is one. -/
def NodeConfig.read (source text node : String) : Except ConfigError (Option NodeConfig) :=
  let entries := do
    match ← (← parse? text).fields? ["nodeconfig"] with
    | [entries] => Value.orElse? [] (Value.list? NodeConfig.ofJson?) entries
    | _ => none
  match entries with
  | some entries => .ok (entries.find? (·.name == node))
  | none => .error (.parse source)

def geometriesToJson (geometries : List Mig.ModelGeometries) : Value :=
  .list (fun allowed => allowed.toNode.toJson) geometries

def DeviceFilter.toJson (filter : DeviceFilter) : Value :=
  .obj [("uuid", .list .str filter.uuids), ("index", .list (fun i => .nat i.toNat) filter.indices)]

def Path.toJson (path : Path) : Value := .str path.text

def HostPaths.toJson (paths : HostPaths) : Value :=
  .obj [("hook_path", paths.hook.toJson), ("containers_dir", paths.containers.toJson),
    ("lock_dir", paths.lock.toJson), ("mig_config_path", paths.migConfig.toJson)]

def ClusterConfig.toJson (number : Float → Value) (config : ClusterConfig) : Value :=
  .obj [("resourceCountName", .str config.countName),
    ("resourceMemoryName", .str config.memoryName), ("resourceCoreName", .str config.coreName),
    ("resourcePriorityName", .str config.priorityName),
    ("deviceSplitCount", .nat config.splitCount.toNat),
    ("deviceMemoryScaling", number config.memoryScaling),
    ("gpuMemoryFactor", .nat config.memoryFactor.toNat), ("migStrategy", .str config.migStrategy),
    ("knownMigGeometries", geometriesToJson config.geometries)]

def NodeConfig.toJson (number : Float → Value) (config : NodeConfig) : Value :=
  .obj [("name", .str config.name), ("operatingmode", .str config.operatingMode),
    ("devicememoryscaling", number config.memoryScaling),
    ("devicesplitcount", .nat config.splitCount.toNat), ("migstrategy", .str config.migStrategy),
    ("filterdevices", .option DeviceFilter.toJson config.filter)]

def AgentConfig.toJson (number : Float → Value) (config : AgentConfig) : Value :=
  .obj [("node_name", .str config.node), ("resource_count_name", .str config.countName),
    ("resource_memory_name", .str config.memoryName),
    ("resource_core_name", .str config.coreName),
    ("resource_priority_name", .str config.priorityName),
    ("device_split_count", .nat config.splitCount.toNat),
    ("device_memory_scaling", number config.memoryScaling),
    ("gpu_memory_factor", .nat config.memoryFactor.toNat),
    ("operating_mode", .str config.mode.text), ("mig_strategy", .str config.strategy.text),
    ("mig_geometries", geometriesToJson config.geometries), ("filter", config.filter.toJson),
    ("paths", config.paths.toJson)]

end GpuShare
