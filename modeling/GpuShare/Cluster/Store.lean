import GpuShare.Text.Decimal
import GpuShare.Cluster.Call

/-!
A cluster in memory. Pods keep the order in which they were added; every write gives its object a
version that no object had before. Guarded writes can be made to conflict, as if another writer had
been faster.
-/

set_option autoImplicit false

namespace GpuShare.Cluster

open Text

structure ConfigMap where
  ns : String
  name : String
  data : Labels
  deriving Repr, DecidableEq

/-- The objects of a cluster, and the conflicts that guarded writes will meet. -/
structure Store where
  pods : List Pod := []
  nodes : Dictionary Node := .empty
  configMaps : List ConfigMap := []
  -- Versions given so far.
  version : Nat := 0
  -- That many of the next guarded pod patches conflict.
  podConflicts : Nat := 0
  -- The guarded pod patch after that many others conflicts.
  podConflictAfter : Option Nat := none
  -- That many of the next guarded node patches conflict.
  nodeConflicts : Nat := 0
  -- Pod patches that were not made to conflict.
  podPatches : Nat := 0
  deriving Repr, DecidableEq, Inhabited

namespace Store

def nextVersion (store : Store) : String := decimal (store.version + 1)

def addPod (store : Store) (pod : Pod) : Store :=
  { store with
    version := store.version + 1
    pods := store.pods ++
      [{ pod with metadata := { pod.metadata with resourceVersion := some store.nextVersion } }] }

def addNode (store : Store) (name : String) : Store :=
  { store with
    version := store.version + 1
    nodes := store.nodes.insert name ⟨⟨none, some name, none, some store.nextVersion, none⟩⟩ }

def addConfigMap (store : Store) (configMap : ConfigMap) : Store :=
  { store with
    configMaps := configMap :: store.configMaps.filter fun other =>
      !(other.ns == configMap.ns && other.name == configMap.name) }

def annotateNode (store : Store) (name key value : String) : Store :=
  match store.nodes.get? name with
  | none => store
  | some node =>
    { store with
      version := store.version + 1
      nodes := store.nodes.insert name
        ⟨node.metadata.patched (.one key (some value)) store.nextVersion⟩ }

def podResource (ns name : String) : String := "pod " ++ ns ++ "/" ++ name

def nodeResource (name : String) : String := "node " ++ name

def findPod? (store : Store) (ns name : String) : Option Pod := store.pods.find? (·.isNamed ns name)

def replacePod (ns name : String) (changed : Pod) : List Pod → List Pod
  | [] => []
  | pod :: pods =>
    if pod.isNamed ns name then changed :: pods else pod :: replacePod ns name changed pods

def guardHolds (metadata : Metadata) : Option String → Bool
  | none => true
  | some version => metadata.resourceVersion == some version

def takePodConflict (store : Store) : Bool × Store :=
  if 0 < store.podConflicts then (true, { store with podConflicts := store.podConflicts - 1 })
  else match store.podConflictAfter with
    | some 0 => (true, { store with podConflictAfter := none })
    | some (passing + 1) => (false, { store with podConflictAfter := some passing })
    | none => (false, store)

def takeNodeConflict (store : Store) : Bool × Store :=
  if 0 < store.nodeConflicts then (true, { store with nodeConflicts := store.nodeConflicts - 1 })
  else (false, store)

def patchPod (store : Store) (ns name : String) (patch : Patch) (version : Option String) :
    Except ClusterError Pod × Store :=
  let (conflicts, store) := if version.isSome then store.takePodConflict else (false, store)
  let resource := podResource ns name
  if conflicts then (.error (.conflict resource), store)
  else
    let next := store.nextVersion
    let counted :=
      { store with version := store.version + 1, podPatches := store.podPatches + 1 }
    match store.findPod? ns name with
    | none => (.error (.notFound resource), counted)
    | some pod =>
      if guardHolds pod.metadata version then
        let changed := { pod with metadata := pod.metadata.patched patch next }
        (.ok changed, { counted with pods := replacePod ns name changed counted.pods })
      else (.error (.conflict resource), counted)

def patchNode (store : Store) (name : String) (patch : Patch) (version : Option String) :
    Except ClusterError Node × Store :=
  let (conflicts, store) := if version.isSome then store.takeNodeConflict else (false, store)
  let resource := nodeResource name
  if conflicts then (.error (.conflict resource), store)
  else
    let next := store.nextVersion
    let counted := { store with version := store.version + 1 }
    match store.nodes.get? name with
    | none => (.error (.notFound resource), counted)
    | some node =>
      if guardHolds node.metadata version then
        let changed : Node := ⟨node.metadata.patched patch next⟩
        (.ok changed, { counted with nodes := counted.nodes.insert name changed })
      else (.error (.conflict resource), counted)

def serve (store : Store) : (call : Call) → call.Answer × Store
  | .listPods => (.ok store.pods, store)
  | .getPod ns name =>
    (match store.findPod? ns name with
      | some pod => .ok pod
      | none => .error (.notFound (podResource ns name)), store)
  | .patchPod ns name patch version => store.patchPod ns name patch version
  | .getNode name =>
    (match store.nodes.get? name with
      | some node => .ok node
      | none => .error (.notFound (nodeResource name)), store)
  | .patchNode name patch version => store.patchNode name patch version
  | .getConfigMap ns name =>
    (.ok ((store.configMaps.find? fun map => map.ns == ns && map.name == name).map (·.data)),
      store)

end Store

/-- A failure that is due: after `skip` more calls of a method, `times` calls fail. -/
structure Fault where
  method : Call.Method
  skip : Nat
  times : Nat
  -- The failure, given what the call is about.
  error : String → ClusterError

/-- Uses the first fault that a call meets: the failure if it is due, and the faults left. -/
def takeFault (call : Call) : List Fault → Option ClusterError × List Fault
  | [] => (none, [])
  | fault :: faults =>
    if fault.method = call.method ∧ 0 < fault.times then
      if 0 < fault.skip then (none, { fault with skip := fault.skip - 1 } :: faults)
      else (some (fault.error call.target), { fault with times := fault.times - 1 } :: faults)
    else
      let (failure, rest) := takeFault call faults
      (failure, fault :: rest)

/-- A cluster behind a connection that logs its calls, the latest first, and may fail them before
they arrive. -/
structure Connection where
  store : Store := {}
  faults : List Fault := []
  log : List Call := []

def Connection.serve (connection : Connection) (call : Call) : call.Answer × Connection :=
  let (failure, faults) := takeFault call connection.faults
  let connection := { connection with faults := faults, log := call :: connection.log }
  match failure with
  | some error => (.error error, connection)
  | none =>
    let (answer, store) := connection.store.serve call
    (answer, { connection with store := store })

end GpuShare.Cluster
