import GpuShare.Agent.NodeLock
import GpuShare.Proofs.Protocol

/-!
How acquiring and releasing a lock use the node. A write always carries the version of the node that
was read last; taking the lock needs a node whose lock is free at a time that was read after the node,
giving it back needs a node that still carries the stamp.
-/

set_option autoImplicit false

namespace GpuShare.Agent.NodeLock

open Cluster

inductive Knowledge where
  | nothing
  -- The node as it was read, and the looks at the clock since then, the latest first.
  | read (node : Node) (times : List Time.Instant)
  -- The write that went through.
  | wrote (patch : Patch)

namespace Knowledge

def learn (knowledge : Knowledge) : (request : Request) → Answer request → Knowledge
  | .cluster (.getNode _), .ok node => .read node []
  | .cluster (.getNode _), .error _ => .nothing
  | .cluster (.patchNode _ patch _), .ok _ => .wrote patch
  | .cluster (.patchNode _ _ _), .error _ => .nothing
  | .now, time =>
    match knowledge with
    | .read node times => .read node (time :: times)
    | other => other
  | _, _ => knowledge

def Unwritten (knowledge : Knowledge) : Prop := ∀ patch, knowledge ≠ .wrote patch

theorem unwritten_nothing : Unwritten .nothing := by
  rintro patch ⟨⟩

theorem unwritten_read (node : Node) (times : List Time.Instant) : Unwritten (.read node times) := by
  rintro patch ⟨⟩

end Knowledge

/-- Nobody is kept out by the lock on a node at one of some times. -/
def IsFree (lock : NodeLock) (node : Node) (times : List Time.Instant) : Prop :=
  ∀ since taken, node.metadata.annotation? lock.key = some since →
    Time.Instant.ofRfc3339? since = some taken → ∃ time ∈ times, staleAge ≤ time - taken

/-- A lock may be taken with the last time that was read, if it was free by then. -/
def MayTake (lock : NodeLock) (node : Node) (times : List Time.Instant) (patch : Patch) : Prop :=
  ∃ now earlier, times = now :: earlier ∧ patch = .one lock.key (some now.toRfc3339) ∧
    lock.IsFree node times

def MayDrop (lock : NodeLock) (stamp : String) (node : Node) (_ : List Time.Instant)
    (patch : Patch) : Prop :=
  patch = .one lock.key none ∧ node.metadata.annotation? lock.key = some stamp

def protocol (lock : NodeLock) (may : Node → List Time.Instant → Patch → Prop) :
    Protocol interface Knowledge where
  allows knowledge request := knowledge.Unwritten ∧
    match request with
    | .cluster (.getNode name) => name = lock.node
    | .cluster (.patchNode name patch version) => name = lock.node ∧ ∃ node times,
        knowledge = .read node times ∧ version = node.metadata.resourceVersion ∧
          may node times patch
    | .now | .sleep _ => True
    | _ => False
  next := Knowledge.learn

def Unchanged (knowledge : Knowledge) (_ : NodeLockError) : Prop := knowledge.Unwritten

open Program Attempt

variable {lock : NodeLock} {may : Node → List Time.Instant → Patch → Prop}

@[simp] theorem protocol_next : (lock.protocol may).next = Knowledge.learn := rfl

theorem readNode_follows {knowledge : Knowledge} (unwritten : knowledge.Unwritten) :
    lock.readNode.run.Follows (lock.protocol may)
      (Outcome (fun knowledge node => knowledge = .read node []) Unchanged) knowledge := by
  refine ⟨⟨unwritten, rfl⟩, fun answer => ?_⟩
  cases answer with
  | ok node => rfl
  | error error => exact fun patch => nofun

theorem checkFree_follows (node : Node) :
    (lock.checkFree .rfc3339 node).run.Follows (lock.protocol may)
      (Outcome (fun knowledge _ => ∃ times, knowledge = .read node times ∧ lock.IsFree node times)
        Unchanged)
      (.read node []) := by
  have idle := Knowledge.unwritten_read node []
  rw [checkFree_rfc3339]
  split
  · next absent => exact ⟨[], rfl, fun since taken present => by rw [absent] at present; cases present⟩
  · next since present =>
    split
    · next unreadable =>
      refine ⟨[], rfl, fun other taken here reads => ?_⟩
      rw [present] at here
      cases here
      rw [unreadable] at reads
      cases reads
    · next taken reads =>
      refine ⟨⟨idle, trivial⟩, fun now => ?_⟩
      show Follows _ _ _ (ExceptT.run (if isFresh (now - taken) then _ else _))
      split
      · exact fun _ => nofun
      · next stale =>
        refine ⟨[now], rfl, fun other then_ here again => ⟨now, List.mem_singleton_self _, ?_⟩⟩
        rw [present] at here
        cases here
        rw [reads] at again
        cases again
        simpa [isFresh] using stale

theorem write?_follows {node : Node} {times : List Time.Instant} {value : Option String}
    (allowed : may node times (.one lock.key value)) (attempt : Nat) :
    (lock.write? attempt node value).run.Follows (lock.protocol may)
      (Outcome
        (fun knowledge written => match written with
          | some () => knowledge = .wrote (.one lock.key value)
          | none => knowledge.Unwritten)
        Unchanged)
      (.read node times) := by
  refine ⟨⟨fun _ => nofun, rfl, node, times, rfl, rfl, allowed⟩, fun answer => ?_⟩
  cases answer with
  | ok written => rfl
  | error error =>
    show Follows _ _ _ (ExceptT.run (if error.isConflict then _ else _))
    split
    · exact ⟨⟨fun _ => nofun, trivial⟩, fun _ => fun _ => nofun⟩
    · exact fun _ => nofun

-- Acquiring writes only a time at which the lock was free, and a failure to acquire has written nothing.
theorem acquireIn_follows (attempts : List Nat) {knowledge : Knowledge}
    (unwritten : knowledge.Unwritten) :
    (lock.acquireIn .rfc3339 attempts).run.Follows (lock.protocol lock.MayTake)
      (Outcome (fun knowledge stamp => knowledge = .wrote (.one lock.key (some stamp))) Unchanged)
      knowledge := by
  induction attempts generalizing knowledge with
  | nil => exact unwritten
  | cons attempt attempts ih =>
    refine follows_bind (readNode_follows unwritten) (fun knowledge node seen => ?_) fun _ _ => id
    subst seen
    refine follows_bind (checkFree_follows node) (fun knowledge _ checked => ?_) fun _ _ => id
    obtain ⟨times, rfl, free⟩ := checked
    have idle := Knowledge.unwritten_read node times
    refine ⟨⟨idle, trivial⟩, fun now => ?_⟩
    have allowed : lock.MayTake node (now :: times) (.one lock.key (some now.toRfc3339)) :=
      ⟨now, times, rfl, rfl, fun since taken present reads => by
        obtain ⟨time, member, old⟩ := free since taken present reads
        exact ⟨time, List.mem_cons_of_mem _ member, old⟩⟩
    refine follows_bind (write?_follows allowed attempt) (fun knowledge written suits => ?_) fun _ _ => id
    cases written with
    | some done => exact suits
    | none => exact ih suits

theorem acquire_follows :
    lock.acquire.run.Follows (lock.protocol lock.MayTake)
      (Outcome (fun knowledge stamp => knowledge = .wrote (.one lock.key (some stamp))) Unchanged)
      .nothing :=
  acquireIn_follows _ fun _ => nofun

theorem releaseIn_follows (stamp : String) (attempts : List Nat) {knowledge : Knowledge}
    (unwritten : knowledge.Unwritten) :
    (lock.releaseIn stamp attempts).run.Follows (lock.protocol (lock.MayDrop stamp))
      (Outcome
        (fun knowledge _ => knowledge = .wrote (.one lock.key none) ∨ ∃ node times,
          knowledge = .read node times ∧ node.metadata.annotation? lock.key ≠ some stamp)
        Unchanged)
      knowledge := by
  induction attempts generalizing knowledge with
  | nil => exact unwritten
  | cons attempt attempts ih =>
    refine follows_bind (readNode_follows unwritten) (fun knowledge node seen => ?_) fun _ _ => id
    subst seen
    split
    · next held =>
      refine follows_bind (write?_follows ⟨rfl, held⟩ attempt) (fun knowledge written suits => ?_)
        fun _ _ => id
      cases written with
      | some done => exact .inl suits
      | none => exact ih suits
    · next lost => exact .inr ⟨node, [], rfl, lost⟩

-- Releasing removes only a lock that carries the stamp.
theorem release_follows (stamp : String) :
    (lock.release stamp).run.Follows (lock.protocol (lock.MayDrop stamp))
      (Outcome
        (fun knowledge _ => knowledge = .wrote (.one lock.key none) ∨ ∃ node times,
          knowledge = .read node times ∧ node.metadata.annotation? lock.key ≠ some stamp)
        Unchanged)
      .nothing :=
  releaseIn_follows stamp _ fun _ => nofun

end GpuShare.Agent.NodeLock
