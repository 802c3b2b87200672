import GpuShare.Text.Utf8
import GpuShare.Agent.Surroundings
import GpuShare.Config.Document

/-!
Loading the configuration of an agent: the part for all nodes from a file or from a ConfigMap, the part
for its node from a file that may be missing.
-/

set_option autoImplicit false

namespace GpuShare.Agent.LoadConfig

open Text

def configMap : String := "volcano-vgpu-device-config"

def documentKey : String := "device-config.yaml"

def namespaces : List String := ["kube-system", "volcano-system"]

def readText (path : Path) : Action ConfigError (Option String) := do
  match ← ask (.readFile path) with
  | .error .notFound => return none
  | .error _ => throw (.read path.text [] none)
  | .ok bytes =>
    match utf8? bytes with
    | some text => return some text
    | none => throw (.read path.text [] none)

def clusterFromFile (path : Path) : Action ConfigError ClusterConfig := do
  match ← readText path with
  | some text => orFail id (ClusterConfig.read path.text text)
  | none => throw (.read path.text [] none)

/-- The part for all nodes, from the ConfigMap in the first namespace that has it. -/
def clusterFromMap : List String → Action ConfigError ClusterConfig
  | [] =>
    throw (.read ("configmap " ++ configMap)
      ["not found in any of " ++ ", ".intercalate namespaces] none)
  | ns :: rest => do
    let source := "configmap " ++ ns ++ "/" ++ configMap
    match ← callOr (fun cause => .read source [] (some cause)) (.getConfigMap ns configMap) with
    | none => clusterFromMap rest
    | some data =>
      match data.get? documentKey with
      | none => throw (.read source ["missing key " ++ documentKey] none)
      | some text => orFail id (ClusterConfig.read source text)

/-- The part for one node; a missing file has none. -/
def nodeFromFile (path : Path) (node : String) : Action ConfigError (Option NodeConfig) := do
  match ← readText path with
  | some text => orFail id (NodeConfig.read path.text text node)
  | none => return none

def load (node : String) (clusterFile : Option Path) (nodeFile : Path) (paths : HostPaths) :
    Action ConfigError AgentConfig := do
  let cluster ← match clusterFile with
    | some path => clusterFromFile path
    | none => clusterFromMap namespaces
  let written ← nodeFromFile nodeFile node
  orFail id (AgentConfig.resolve node cluster written paths)

end GpuShare.Agent.LoadConfig
