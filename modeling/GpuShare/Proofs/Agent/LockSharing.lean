import Mathlib.Logic.Function.Basic
import GpuShare.Cluster.Store
import GpuShare.Agent.NodeLock
import GpuShare.Proofs.Run

/-!
Managers that share one lock. Each acquires and releases by the programs of the lock, one request at a
time, and between two requests the others go on, other annotations of the node are written, and time
passes. A request is answered at once; any call may fail, and then has no effect.
-/

set_option autoImplicit false

namespace GpuShare.Agent.NodeLock

open Cluster

inductive Activity where
  | idle
  | acquiring (rest : Program interface (Except NodeLockError String))
  | releasing (stamp : String) (rest : Program interface (Except NodeLockError Unit))

/-- A manager: the stamps that it has acquired and not released since, and what it is doing. -/
structure Manager where
  owed : List String := []
  activity : Activity := .idle

namespace Manager

def acquire (manager : Manager) : Program interface (Except NodeLockError String) → Manager
  | .done (.ok stamp) => ⟨stamp :: manager.owed, .idle⟩
  | .done (.error _) => ⟨manager.owed, .idle⟩
  | .ask request next => ⟨manager.owed, .acquiring (.ask request next)⟩

/-- Goes on releasing, unless releasing has returned. A stamp whose release failed stays owed. -/
def release (manager : Manager) (stamp : String) :
    Program interface (Except NodeLockError Unit) → Manager
  | .done (.ok ()) => ⟨manager.owed.erase stamp, .idle⟩
  | .done (.error _) => ⟨manager.owed, .idle⟩
  | .ask request next => ⟨manager.owed, .releasing stamp (.ask request next)⟩

end Manager

structure Scene (ι : Type) where
  node : Node
  -- The versions that the node has had.
  versions : List String
  clock : Time.Instant
  managers : ι → Manager

namespace Scene

variable {ι : Type} [DecidableEq ι]

def value (lock : NodeLock) (scene : Scene ι) : Option String :=
  scene.node.metadata.annotation? lock.key

def write (scene : Scene ι) (node : Node) (version : String) : Scene ι :=
  { scene with node := node, versions := version :: scene.versions }

def setManager (scene : Scene ι) (i : ι) (manager : Manager) : Scene ι :=
  { scene with managers := Function.update scene.managers i manager }

def IsInitial (scene : Scene ι) : Prop :=
  (∀ i, scene.managers i = {}) ∧
    ∃ version ∈ scene.versions, scene.node.metadata.resourceVersion = some version

end Scene

inductive Reply {ι : Type} (lock : NodeLock) (scene : Scene ι) :
    (request : Request) → Answer request → Scene ι → Prop where
  | read : Reply lock scene (.cluster (.getNode lock.node)) (.ok scene.node) scene
  | written (patch : Patch) (guard : Option String) (version : String) :
      Store.guardHolds scene.node.metadata guard → version ∉ scene.versions →
      Reply lock scene (.cluster (.patchNode lock.node patch guard))
        (.ok ⟨scene.node.metadata.patched patch version⟩)
        (scene.write ⟨scene.node.metadata.patched patch version⟩ version)
  | failed (call : Call) (error : ClusterError) :
      Reply lock scene (.cluster call) (.error error) scene
  | now : Reply lock scene .now scene.clock scene
  | slept (milliseconds : Nat) : Reply lock scene (.sleep milliseconds) () scene

variable {ι : Type} [DecidableEq ι]

inductive Step (lock : NodeLock) (scene : Scene ι) : Option ι → Scene ι → Prop where
  | tick (time : Time.Instant) : scene.clock ≤ time → Step lock scene none { scene with clock := time }
  -- Somebody writes the node and leaves the lock alone.
  | foreign (node : Node) (version : String) :
      node.metadata.resourceVersion = some version → version ∉ scene.versions →
      node.metadata.annotation? lock.key = scene.value lock →
      Step lock scene none (scene.write node version)
  | toAcquire (i : ι) : (scene.managers i).activity = .idle →
      Step lock scene (some i)
        (scene.setManager i ((scene.managers i).acquire lock.acquire.run))
  | toRelease (i : ι) (stamp : String) : (scene.managers i).activity = .idle →
      stamp ∈ (scene.managers i).owed →
      Step lock scene (some i)
        (scene.setManager i ((scene.managers i).release stamp (lock.release stamp).run))
  | acquire (i : ι) (request : Request)
      (next : Answer request → Program interface (Except NodeLockError String))
      (answer : Answer request) (after : Scene ι) :
      (scene.managers i).activity = .acquiring (.ask request next) →
      Reply lock scene request answer after →
      Step lock scene (some i) (after.setManager i ((scene.managers i).acquire (next answer)))
  | release (i : ι) (stamp : String) (request : Request)
      (next : Answer request → Program interface (Except NodeLockError Unit))
      (answer : Answer request) (after : Scene ι) :
      (scene.managers i).activity = .releasing stamp (.ask request next) →
      Reply lock scene request answer after →
      Step lock scene (some i) (after.setManager i ((scene.managers i).release stamp (next answer)))

section Transitions

omit [DecidableEq ι]

/-- The step with which an acquire of a manager returns a stamp. -/
def Acquires (transition : Transition (Scene ι) ι) (i : ι) (stamp : String) : Prop :=
  transition.actor = some i ∧
    (transition.after.managers i).owed = stamp :: (transition.before.managers i).owed

def Releases (transition : Transition (Scene ι) ι) (i : ι) (stamp : String) : Prop :=
  transition.actor = some i ∧
    ∃ rest, (transition.before.managers i).activity = .releasing stamp rest

/-- The value of the lock is the one that an acquire of a manager wrote and returned as its stamp, and
it has been there, and owed, ever since. -/
def Placed (lock : NodeLock) (trace : List (Transition (Scene ι) ι)) (i : ι) (stamp : String) : Prop :=
  ∃ later taking earlier, trace = later ++ taking :: earlier ∧ Acquires taking i stamp ∧
    taking.before.value lock ≠ some stamp ∧ taking.after.value lock = some stamp ∧
    ∀ transition ∈ later, transition.after.value lock = some stamp ∧
      stamp ∈ (transition.after.managers i).owed

end Transitions

end GpuShare.Agent.NodeLock
