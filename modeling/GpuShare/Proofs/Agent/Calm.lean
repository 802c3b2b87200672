import GpuShare.Proofs.Agent.Alone
import GpuShare.Proofs.Agent.ClaimEffects

/-!
A cluster on which no call fails and nobody else writes. A call changes what it is about and leaves the
rest of the world as it was, but for what is only counted and logged.
-/

set_option autoImplicit false

namespace GpuShare.Cluster.Store

variable {store : Store} {name : String} {node : Node} {patch : Patch} {guard : Option String}

theorem patchNode_clear (clear : store.nodeConflicts = 0) (found : store.nodes.get? name = some node)
    (holds : guardHolds node.metadata guard = true) :
    store.patchNode name patch guard = (.ok ⟨node.metadata.patched patch store.nextVersion⟩,
      { store with
        version := store.version + 1
        nodes := store.nodes.insert name ⟨node.metadata.patched patch store.nextVersion⟩ }) := by
  simp [patchNode, takeNodeConflict, clear, found, holds]

end GpuShare.Cluster.Store

namespace GpuShare.Agent

open Cluster Claiming

/-- What the agent finds in a world, without what is only counted and logged. -/
structure View where
  pods : List Pod
  nodes : Dictionary Node
  inventory : Device.Inventory
  partitionTool : PartitionTool
  disk : Disk

-- All that resolving depends on.
def View.devices (view : View) : Device.Inventory × PartitionTool := (view.inventory, view.partitionTool)

namespace World

def view (world : World) : View :=
  ⟨world.connection.store.pods, world.connection.store.nodes, world.inventory, world.partitionTool,
    world.disk⟩

structure IsCalm (world : World) : Prop where
  faults : world.connection.faults = []
  podConflicts : world.connection.store.podConflicts = 0
  podConflictAfter : world.connection.store.podConflictAfter = none
  nodeConflicts : world.connection.store.nodeConflicts = 0

def called (world : World) (call : Call) (store : Store) : World :=
  { world with
    connection := ⟨store, [], call :: world.connection.log⟩
    callTimes := world.waited :: world.callTimes }

variable {world after : World} {ε : Type} {ns name : String} {pod : Pod} {node : Node}
  {patch : Patch} {guard : Option String}

theorem serve_cluster (faults : world.connection.faults = []) (call : Call) :
    World.serve (.cluster call) world = ((world.connection.store.serve call).1,
      world.called call (world.connection.store.serve call).2) := by
  have arrives : takeFault call world.connection.faults = (none, []) := by
    rw [faults]
    rfl
  simp only [World.serve, Connection.serve, arrives]
  rfl

theorem IsCalm.serve (calm : world.IsCalm) (call : Call) :
    World.serve (.cluster call) world = ((world.connection.store.serve call).1,
      world.called call (world.connection.store.serve call).2) :=
  serve_cluster calm.faults call

theorem IsCalm.called (calm : world.IsCalm) (call : Call) {store : Store}
    (pods : store.podConflicts = world.connection.store.podConflicts)
    (later : store.podConflictAfter = world.connection.store.podConflictAfter)
    (nodes : store.nodeConflicts = world.connection.store.nodeConflicts) :
    (world.called call store).IsCalm :=
  ⟨rfl, pods.trans calm.podConflicts, later.trans calm.podConflictAfter,
    nodes.trans calm.nodeConflicts⟩

theorem IsCalm.listPods (calm : world.IsCalm) :
    ∃ after, World.serve (.cluster .listPods) world = (.ok world.view.pods, after) ∧
      after.IsCalm ∧ after.view = world.view := by
  rw [calm.serve]
  exact ⟨_, rfl, calm.called _ rfl rfl rfl, rfl⟩

theorem IsCalm.getPod (calm : world.IsCalm)
    (found : world.view.pods.find? (·.isNamed ns name) = some pod) :
    ∃ after, World.serve (.cluster (.getPod ns name)) world = (.ok pod, after) ∧
      after.IsCalm ∧ after.view = world.view := by
  have held : world.connection.store.findPod? ns name = some pod := found
  rw [calm.serve]
  simp only [Store.serve, held]
  exact ⟨_, rfl, calm.called _ rfl rfl rfl, rfl⟩

theorem IsCalm.getNode (calm : world.IsCalm) (found : world.view.nodes.get? name = some node) :
    ∃ after, World.serve (.cluster (.getNode name)) world = (.ok node, after) ∧
      after.IsCalm ∧ after.view = world.view := by
  have held : world.connection.store.nodes.get? name = some node := found
  rw [calm.serve]
  simp only [Store.serve, held]
  exact ⟨_, rfl, calm.called _ rfl rfl rfl, rfl⟩

theorem IsCalm.patchPod (calm : world.IsCalm)
    (found : world.view.pods.find? (·.isNamed ns name) = some pod) (patch : Patch)
    (holds : Store.guardHolds pod.metadata guard = true) :
    ∃ version after, World.serve (.cluster (.patchPod ns name patch guard)) world =
        (.ok (patchedPod pod patch version), after) ∧ after.IsCalm ∧
      after.view = { world.view with
        pods := Store.replacePod ns name (patchedPod pod patch version) world.view.pods } := by
  have held : world.connection.store.findPod? ns name = some pod := found
  have passes : (if guard.isSome then world.connection.store.takePodConflict
      else (false, world.connection.store)) = (false, world.connection.store) := by
    split
    · rw [Store.takePodConflict, if_neg (by rw [calm.podConflicts]; omega), calm.podConflictAfter]
    · rfl
  rw [calm.serve]
  simp only [Store.serve, Store.patchPod, passes, held, holds]
  exact ⟨_, _, rfl, calm.called _ rfl rfl rfl, rfl⟩

theorem IsCalm.patchNode (calm : world.IsCalm) (found : world.view.nodes.get? name = some node)
    (patch : Patch) (holds : Store.guardHolds node.metadata guard = true) :
    ∃ version after, World.serve (.cluster (.patchNode name patch guard)) world =
        (.ok ⟨node.metadata.patched patch version⟩, after) ∧ after.IsCalm ∧
      after.view = { world.view with
        nodes := world.view.nodes.insert name ⟨node.metadata.patched patch version⟩ } := by
  rw [calm.serve, Store.serve, Store.patchNode_clear calm.nodeConflicts found holds]
  exact ⟨_, _, rfl, calm.called _ rfl rfl rfl, rfl⟩

theorem run_callOr {call : Call} {reply : call.Reply}
    (served : World.serve (.cluster call) world = (.ok reply, after)) (f : ClusterError → ε) :
    world.run (callOr f call) = (.ok reply, after) := by
  have shape : world.run (callOr f call) =
      (World.serve (.cluster call) world).2.run (orFail f (World.serve (.cluster call) world).1) := rfl
  rw [shape, served]
  rfl

theorem run_callOr_error {call : Call} {cause : ClusterError}
    (served : World.serve (.cluster call) world = (.error cause, after)) (f : ClusterError → ε) :
    world.run (callOr f call) = (.error (f cause), after) := by
  have shape : world.run (callOr f call) =
      (World.serve (.cluster call) world).2.run (orFail f (World.serve (.cluster call) world).1) := rfl
  rw [shape, served]
  rfl

end World

namespace NodeLock

variable {world after : World} {lock : NodeLock} {node : Node} {stamp : String}

def IsAt (lock : NodeLock) (nodes : Dictionary Node) (value : Option String) : Prop :=
  ∃ node, nodes.get? lock.node = some node ∧ node.metadata.annotation? lock.key = value

theorem guardHolds_self (metadata : Metadata) :
    Store.guardHolds metadata metadata.resourceVersion = true := by
  cases has : metadata.resourceVersion with
  | none => rfl
  | some version => simp [Store.guardHolds, has]

theorem run_write?_ok {changed : Node} {value : Option String}
    (served : World.serve (.cluster (.patchNode lock.node (.one lock.key value)
      node.metadata.resourceVersion)) world = (.ok changed, after)) (attempt : Nat) :
    world.run (lock.write? attempt node value) = (.ok (some ()), after) := by
  unfold write?
  dsimp only
  rw [World.run_ask_bind, served]
  rfl

theorem run_write? (calm : world.IsCalm) (found : world.view.nodes.get? lock.node = some node)
    (attempt : Nat) (value : Option String) :
    ∃ nodes after, world.run (lock.write? attempt node value) = (.ok (some ()), after) ∧
      after.IsCalm ∧ after.view = { world.view with nodes := nodes } ∧ lock.IsAt nodes value := by
  obtain ⟨version, after, served, calm, view⟩ :=
    calm.patchNode found (.one lock.key value) (guardHolds_self node.metadata)
  refine ⟨_, after, run_write?_ok served attempt, calm, view,
    ⟨node.metadata.patched (.one lock.key value) version⟩, ?_, ?_⟩
  · rw [Dictionary.get?_insert, if_pos rfl]
  · rw [annotation?_patched_one, if_pos rfl]

theorem run_readNode (calm : world.IsCalm) (found : world.view.nodes.get? lock.node = some node) :
    ∃ after, world.run lock.readNode = (.ok node, after) ∧ after.IsCalm ∧
      after.view = world.view := by
  obtain ⟨after, served, calm, view⟩ := calm.getNode found
  exact ⟨after, World.run_callOr served _, calm, view⟩

-- A lock that nobody has is taken.
theorem run_acquire (calm : world.IsCalm) (free : lock.IsAt world.view.nodes none) :
    ∃ stamp nodes after, world.run lock.acquire = (.ok stamp, after) ∧ after.IsCalm ∧
      after.view = { world.view with nodes := nodes } ∧ lock.IsAt nodes (some stamp) := by
  obtain ⟨node, found, absent⟩ := free
  obtain ⟨read, ran, calm, view⟩ := run_readNode calm found
  have passes : lock.checkFree .rfc3339 node = pure () := by
    rw [checkFree, absent]
  have ticked : (World.serve .now read).2.view = read.view := rfl
  have calmer : (World.serve .now read).2.IsCalm := ⟨calm.faults, calm.podConflicts,
    calm.podConflictAfter, calm.nodeConflicts⟩
  have still : (World.serve .now read).2.view.nodes.get? lock.node = some node := by
    rw [ticked, view]
    exact found
  obtain ⟨nodes, after, wrote, calm, written, held⟩ := run_write? calmer still 1
    (some (StampFormat.rfc3339.write (World.serve .now read).1))
  rw [ticked, view] at written
  refine ⟨_, nodes, after, ?_, calm, written, held⟩
  show world.run (lock.acquireIn .rfc3339 (1 :: attemptsFrom 2 4)) = _
  rw [acquireIn, World.run_bind_ok ran, passes, pure_bind, World.run_ask_bind,
    World.run_bind_ok wrote]
  rfl

theorem run_release (calm : world.IsCalm) (held : lock.IsAt world.view.nodes (some stamp)) :
    ∃ nodes after, world.run (lock.release stamp) = (.ok (), after) ∧ after.IsCalm ∧
      after.view = { world.view with nodes := nodes } ∧ lock.IsAt nodes none := by
  obtain ⟨node, found, own⟩ := held
  obtain ⟨read, ran, calm, view⟩ := run_readNode calm found
  rw [← view] at found
  obtain ⟨nodes, after, wrote, calm, written, free⟩ := run_write? calm found 1 none
  rw [view] at written
  refine ⟨nodes, after, ?_, calm, written, free⟩
  show world.run (lock.releaseIn stamp (1 :: attemptsFrom 2 4)) = _
  rw [releaseIn, World.run_bind_ok ran, if_pos own, World.run_bind_ok wrote]
  rfl

end NodeLock

end GpuShare.Agent
