import GpuShare.Diagnostic
import GpuShare.Cluster.Basic

/-!
The calls on the cluster's API server, their answers and their failures. A write that carries the
version its caller has read is guarded: it is refused with a conflict if the object has changed.
-/

set_option autoImplicit false

namespace GpuShare

inductive ClusterError where
  | connectionFailed (message : String)
  | requestFailed (message : String)
  | notFound (resource : String)
  -- The object has changed since it was read.
  | conflict (resource : String)
  deriving Repr, DecidableEq

namespace ClusterError

def code : ClusterError → String
  | connectionFailed .. => "ConnectionFailed"
  | requestFailed .. => "RequestFailed"
  | notFound .. => "NotFound"
  | conflict .. => "Conflict"

def message : ClusterError → String
  | connectionFailed message => "failed to connect to the Kubernetes API server: " ++ message
  | requestFailed message => "Kubernetes request failed: " ++ message
  | notFound resource => resource ++ " not found"
  | conflict resource => resource ++ " was modified concurrently"

/-- Whether the write may be tried again on the object as it is now. -/
def isConflict : ClusterError → Bool
  | conflict .. => true
  | _ => false

instance : Explain ClusterError where
  explain error := [⟨error.code, error.message, []⟩]

end ClusterError

namespace Cluster

/-- A call on the API server; a patch with a version is guarded. -/
inductive Call where
  | listPods
  | getPod (ns name : String)
  | patchPod (ns name : String) (patch : Patch) (version : Option String)
  | getNode (name : String)
  | patchNode (name : String) (patch : Patch) (version : Option String)
  | getConfigMap (ns name : String)
  deriving Repr, DecidableEq

namespace Call

/-- What a call gives if it succeeds. A ConfigMap that does not exist gives no data. -/
abbrev Reply : Call → Type
  | listPods => List Pod
  | getPod .. | patchPod .. => Pod
  | getNode .. | patchNode .. => Node
  | getConfigMap .. => Option Labels

abbrev Answer (call : Call) : Type := Except ClusterError call.Reply

inductive Method where
  | listPods
  | getPod
  | patchPod
  | getNode
  | patchNode
  | getConfigMap
  deriving Repr, DecidableEq

def Method.text : Method → String
  | listPods => "list_pods"
  | getPod => "get_pod"
  | patchPod => "patch_pod"
  | getNode => "get_node"
  | patchNode => "patch_node"
  | getConfigMap => "get_config_map"

def Method.ofText? (text : String) : Option Method :=
  [listPods, getPod, patchPod, getNode, patchNode, getConfigMap].find? (·.text == text)

def method : Call → Method
  | listPods => .listPods
  | getPod .. => .getPod
  | patchPod .. => .patchPod
  | getNode .. => .getNode
  | patchNode .. => .patchNode
  | getConfigMap .. => .getConfigMap

def guardText (version : Option String) : String :=
  if version.isSome then "guarded" else "unguarded"

def target : Call → String
  | listPods => ""
  | getPod ns name => ns ++ "/" ++ name
  | patchPod ns name _ _ => ns ++ "/" ++ name
  | getNode name => name
  | patchNode name _ _ => name
  | getConfigMap ns name => ns ++ "/" ++ name

def logLine (call : Call) : String :=
  match call with
  | listPods => call.method.text
  | patchPod _ _ _ version | patchNode _ _ version =>
    call.method.text ++ " " ++ call.target ++ " " ++ guardText version
  | _ => call.method.text ++ " " ++ call.target

end Call

end Cluster

end GpuShare
