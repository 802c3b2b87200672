import GpuShare.Proofs.Agent.CallParts
import GpuShare.Proofs.Agent.Unreliable
import GpuShare.Proofs.Agent.InOrder

/-!
The lock around a call. A call that has taken the lock gives it back however it ends, and leaves the other
annotations of the node alone. One that does not get the lock does nothing else. A call that is not served
from the queue never asks the cluster.
-/

set_option autoImplicit false

namespace GpuShare.Agent.Unreliable

open Cluster Serving Program Attempt

section Locks

variable {lock : NodeLock} {start store after : Store} {exchanges : List (Exchange interface)}
  {stamp : String}

/-- The nodes while a lock is taken or given back: as they were, or with the one write that went through. -/
def NodesAt (lock : NodeLock) (start : Store) : NodeLock.Knowledge → Store → Prop
  | .nothing, store => store.nodes = start.nodes
  | .read node _, store => store.nodes = start.nodes ∧ start.nodes.get? lock.node = some node
  | .wrote patch, store => ∃ node version, start.nodes.get? lock.node = some node ∧
      store.nodes = start.nodes.insert lock.node ⟨node.metadata.patched patch version⟩

theorem NodesAt.of_unwritten {knowledge : NodeLock.Knowledge} (at_ : NodesAt lock start knowledge store)
    (unwritten : knowledge.Unwritten) : store.nodes = start.nodes := by
  cases knowledge with
  | nothing => exact at_
  | read node times => exact at_.1
  | wrote patch => exact absurd rfl (unwritten patch)

theorem NodesAt.step {may : Node → List Time.Instant → Patch → Prop} {knowledge : NodeLock.Knowledge}
    {request : Request} {answer : Answer request} (at_ : NodesAt lock start knowledge store)
    (allowed : (lock.protocol may).allows knowledge request)
    (replied : Replies store request answer after) :
    NodesAt lock start (knowledge.learn request answer) after := by
  obtain ⟨unwritten, fits⟩ := allowed
  have same := at_.of_unwritten unwritten
  cases request with
  | cluster call =>
    cases call with
    | getNode name =>
      obtain rfl : name = lock.node := fits
      obtain ⟨rfl, ⟨node, held, rfl⟩ | ⟨error, rfl⟩⟩ := getNode_cases replied
      · exact ⟨same, by rwa [same] at held⟩
      · exact same
    | patchNode name patch guard =>
      obtain ⟨rfl, node, times, rfl, -, -⟩ := fits
      obtain ⟨⟨error, rfl⟩, kept⟩ | ⟨found, version, held, rfl, changed⟩ := patchNode_cases replied
      · exact kept.trans same
      · rw [same] at held changed
        exact ⟨found, version, held, changed⟩
    | _ => exact absurd fits id
  | now =>
    obtain rfl : after = store := replied
    cases knowledge with
    | nothing => exact at_
    | read node times => exact at_
    | wrote patch => exact at_
  | sleep milliseconds =>
    obtain rfl : after = store := replied
    exact at_
  | _ => exact absurd fits id

theorem NodesAt.congr {knowledge : NodeLock.Knowledge} (at_ : NodesAt lock start knowledge store)
    (same : after.nodes = store.nodes) : NodesAt lock start knowledge after := by
  cases knowledge with
  | nothing => exact same.trans at_
  | read node times => exact ⟨same.trans at_.1, at_.2⟩
  | wrote patch =>
    obtain ⟨node, version, held, nodes⟩ := at_
    exact ⟨node, version, held, same.trans nodes⟩

theorem acquire_takes
    (executes : lock.acquire.run.Executes Replies store exchanges (.ok stamp) after) :
    NodesAt lock store (.wrote (.one lock.key (some stamp))) after := by
  obtain ⟨knowledge, at_, rfl⟩ := NodeLock.acquire_follows.executes executes (NodesAt lock store)
    (fun _ _ _ _ _ at_ allowed replied => at_.step allowed replied) rfl
  exact at_

theorem acquire_refused {cause : NodeLockError}
    (executes : lock.acquire.run.Executes Replies store exchanges (.error cause) after) :
    after.nodes = store.nodes := by
  obtain ⟨knowledge, at_, unwritten⟩ := NodeLock.acquire_follows.executes executes (NodesAt lock store)
    (fun _ _ _ _ _ at_ allowed replied => at_.step allowed replied) rfl
  exact at_.of_unwritten unwritten

def failsOnNode : Exchange interface → Bool
  | ⟨.cluster (.getNode _), .error _⟩ => true
  | ⟨.cluster (.patchNode ..), .error error⟩ => !error.isConflict
  | _ => false

def meetsConflict : Exchange interface → Bool
  | ⟨.cluster (.patchNode ..), .error error⟩ => error.isConflict
  | _ => false

/-- No call on a node fails, and there are attempts left after the last conflict. -/
structure Undisturbed (exchanges : List (Exchange interface)) : Prop where
  succeeds : ∀ exchange ∈ exchanges, ¬ failsOnNode exchange
  conflicts : exchanges.countP meetsConflict < NodeLock.maxAttempts

theorem Undisturbed.sublist {some_exchanges : List (Exchange interface)} (undisturbed : Undisturbed exchanges)
    (part : some_exchanges.Sublist exchanges) : Undisturbed some_exchanges :=
  ⟨fun exchange member => undisturbed.succeeds exchange (part.subset member),
    Nat.lt_of_le_of_lt part.countP_le undisturbed.conflicts⟩

theorem write?_ends {attempt : Nat} {node : Node} {value : Option String}
    {outcome : Except NodeLockError (Option Unit)}
    (ends : (lock.write? attempt node value).run.Ends exchanges outcome) :
    outcome = .ok (some ()) ∨ outcome = .ok none ∧ exchanges.countP meetsConflict = 1 ∨
      ∃ exchange ∈ exchanges, failsOnNode exchange := by
  obtain ⟨answer, rest, rfl, goes⟩ := ends
  cases answer with
  | ok written =>
    obtain ⟨-, rfl⟩ := goes
    exact .inl rfl
  | error error =>
    change Program.Ends (ExceptT.run (if error.isConflict then _ else _)) _ _ at goes
    split at goes
    · next conflict =>
      obtain ⟨-, _, rfl, rfl, rfl⟩ := goes
      refine .inr (.inl ⟨rfl, ?_⟩)
      simp [meetsConflict, conflict]
    · next other => exact .inr (.inr ⟨_, List.mem_cons_self, by simpa [failsOnNode] using other⟩)

-- Giving a lock back fails only by a call that fails, or by a conflict in every attempt.
theorem releaseIn_fails {attempts : List Nat} {cause : NodeLockError}
    (ends : (lock.releaseIn stamp attempts).run.Ends exchanges (.error cause)) :
    (∃ exchange ∈ exchanges, failsOnNode exchange) ∨
      attempts.length ≤ exchanges.countP meetsConflict := by
  induction attempts generalizing exchanges with
  | nil => exact .inr (Nat.zero_le _)
  | cons attempt attempts ih =>
    obtain ⟨e, -, stopped⟩ | ⟨node, reading, rest, rfl, -, goes⟩ := Attempt.ends_bind.1 ends
    · obtain ⟨answer, rfl, failed⟩ := callOr_ends stopped
      cases answer with
      | ok node => cases failed
      | error error => exact .inl ⟨_, List.mem_singleton_self _, rfl⟩
    split at goes
    · obtain ⟨e, same, stopped⟩ | ⟨written, writing, rest, rfl, writes, goes⟩ := Attempt.ends_bind.1 goes
      · obtain ⟨⟨⟩⟩ | ⟨⟨⟩, -⟩ | ⟨exchange, member, fails⟩ := write?_ends stopped
        exact .inl ⟨exchange, List.mem_append_right _ member, fails⟩
      cases written with
      | some done => cases goes.2
      | none =>
        obtain ⟨⟨⟩⟩ | ⟨-, once⟩ | ⟨exchange, member, fails⟩ := write?_ends writes
        · obtain ⟨exchange, member, fails⟩ | often := ih goes
          · exact .inl ⟨exchange, by simp [member], fails⟩
          · right
            simp only [List.length_cons, List.countP_append]
            omega
        · exact .inl ⟨exchange, by simp [member], fails⟩
    · cases goes.2

theorem attemptsFrom_length (attempt n : Nat) : (NodeLock.attemptsFrom attempt n).length = n := by
  induction n generalizing attempt with
  | zero => rfl
  | succ n ih => simp [NodeLock.attemptsFrom, ih]

structure Unlocked (lock : NodeLock) (before after : Dictionary Node) : Prop where
  node : ∃ held freed, before.get? lock.node = some held ∧ after.get? lock.node = some freed ∧
    freed.metadata.annotation? lock.key = none ∧
    ∀ key, key ≠ lock.key → freed.metadata.annotation? key = held.metadata.annotation? key
  others : ∀ name, name ≠ lock.node → after.get? name = before.get? name

-- Giving back a lock that was just taken removes it, unless the calls for it fail.
theorem release_unlocks {freed : Except NodeLockError Unit}
    (at_ : NodesAt lock start (.wrote (.one lock.key (some stamp))) store)
    (executes : (lock.release stamp).run.Executes Replies store exchanges freed after)
    (undisturbed : Undisturbed exchanges) : Unlocked lock start.nodes after.nodes := by
  obtain ⟨held, version, was, nodes⟩ := at_
  have locked : store.nodes.get? lock.node =
      some ⟨held.metadata.patched (.one lock.key (some stamp)) version⟩ := by
    rw [nodes, Dictionary.get?_insert, if_pos rfl]
  obtain ⟨knowledge, at_, suits⟩ := (NodeLock.release_follows stamp).executes executes
    (NodesAt lock store) (fun _ _ _ _ _ at_ allowed replied => at_.step allowed replied) rfl
  cases freed with
  | error cause =>
    obtain ⟨exchange, member, fails⟩ | often := releaseIn_fails executes.ends
    · exact absurd fails (undisturbed.succeeds exchange member)
    · rw [attemptsFrom_length] at often
      exact absurd undisturbed.conflicts (Nat.not_lt.2 often)
  | ok done =>
    obtain rfl | ⟨node, times, rfl, lost⟩ := suits
    · obtain ⟨found, version', here, changed⟩ := at_
      cases locked.symm.trans here
      refine ⟨⟨held, _, was, by rw [changed, Dictionary.get?_insert, if_pos rfl], ?_, ?_⟩, ?_⟩
      · rw [annotation?_patched_one, if_pos rfl]
      · intro key other
        rw [annotation?_patched_one, if_neg other, annotation?_patched_one, if_neg other]
      · intro name other
        rw [changed, Dictionary.get?_insert, if_neg other, nodes, Dictionary.get?_insert, if_neg other]
    · cases locked.symm.trans at_.2
      rw [annotation?_patched_one, if_pos rfl] at lost
      exact absurd rfl lost

end Locks

section Calls

variable {config : AgentConfig} {remembered now : Option Mig.Partition} {resource : Resource}
  {request : AllocateRequest} {outcome : Except AllocationError AllocateResponse} {store after : Store}
  {exchanges : List (Exchange interface)}

structure StaysOut (config : AgentConfig) (outcome : Except AllocationError AllocateResponse)
    (exchanges : List (Exchange interface)) (store after : Store) : Prop where
  refused : ∃ cause, outcome = .error (.lockUnavailable cause) ∧
    (queueLock config).acquire.run.Ends exchanges (.error cause)
  quiet : ∀ exchange ∈ exchanges, exchange.request.IsQuiet
  nodes : after.nodes = store.nodes
  pods : after.pods = store.pods

def TakesTurn (config : AgentConfig) (remembered now : Option Mig.Partition) (ids : List String)
    (outcome : Except AllocationError AllocateResponse) (exchanges : List (Exchange interface))
    (store after : Store) : Prop :=
  ∃ taking serving releasing stamp served freed, exchanges = taking ++ (serving ++ releasing) ∧
    (queueLock config).acquire.run.Ends taking (.ok stamp) ∧
    (serveQueue config remembered ids).Ends serving (served, now) ∧
    outcome = served.map (fun response => ⟨[response]⟩) ∧
    ((queueLock config).release stamp).run.Ends releasing freed ∧
    (Undisturbed releasing → Unlocked (queueLock config) store.nodes after.nodes)

theorem keeps_lock_discipline
    (executes : (allocate config remembered resource request).Executes Replies store exchanges
      (outcome, now) after) :
    (∀ ids, UsesQueue resource request ids → StaysOut config outcome exchanges store after ∨
      TakesTurn config remembered now ids outcome exchanges store after) ∧
    ((∀ ids, ¬ UsesQueue resource request ids) →
      ∀ exchange ∈ exchanges, exchange.request.IsLocal) := by
  obtain ⟨ends, passes⟩ := executes
  obtain ⟨ids, served, uses, shares, rfl⟩ | ⟨other, looks⟩ := allocate_ends ends
  · refine ⟨fun ids' uses' => ?_, fun unused => absurd uses (unused ids)⟩
    obtain rfl : ids' = ids := uses'.unique uses
    obtain ⟨cause, rfl, takes⟩ | ⟨taking, serving, releasing, stamp, freed, rfl, takes, serves, releases⟩ :=
      serveLocked_ends shares
    · have asked := NodeLock.acquire_asks.of_ends takes
      have quiet := fun exchange member => (asked exchange member).isQuiet
      refine .inl ⟨⟨cause, rfl, takes⟩, quiet, acquire_refused ⟨takes, passes⟩, ?_⟩
      exact passes.keeps fun exchange member _ _ replied => pods_eq replied (quiet exchange member).not_writesPod
    · obtain ⟨locked, begins, goes⟩ := passes_append.1 passes
      obtain ⟨handed, between, gives⟩ := passes_append.1 goes
      refine .inr ⟨taking, serving, releasing, stamp, served, freed, rfl, takes, serves, rfl, releases,
        fun undisturbed => ?_⟩
      have same : handed.nodes = locked.nodes := between.keeps fun exchange member _ _ replied =>
        nodes_eq replied ((serveQueue_asks ..).of_ends serves exchange member)
      exact release_unlocks ((acquire_takes ⟨takes, begins⟩).congr same) ⟨releases, gives⟩ undisturbed
  · refine ⟨fun ids uses => absurd uses (other ids), fun _ exchange member => ?_⟩
    exact (looks exchange member).isForDevices.isLocal

/-- The pods cannot be listed, and the write that gives the lock back meets a conflict. -/
def unlisted : World :=
  (twoPods.world.mapStore (·.annotateNode "node-a" "zone" "west")).addFaults
    [⟨.listPods, 0, 1, fun _ => .requestFailed "timed out"⟩, ⟨.patchNode, 1, 1, .conflict⟩]

-- The call fails under the lock, and the lock is gone after it.
theorem keeps_lock_discipline_unlisted :
    ((sharesOf ["GPU-0-0"]).run World.serve unlisted).1.1 =
      .error (.clusterAccess (.requestFailed "timed out")) ∧
    Unlocked (queueLock sharingAgent) unlisted.connection.store.nodes
      ((sharesOf ["GPU-0-0"]).run World.serve unlisted).2.connection.store.nodes := by
  obtain ⟨fails, succeeds, conflicts⟩ : ((sharesOf ["GPU-0-0"]).run World.serve unlisted).1.1 =
        .error (.clusterAccess (.requestFailed "timed out")) ∧
      (∀ exchange ∈ (sharesOf ["GPU-0-0"]).trace World.serve unlisted, ¬ failsOnNode exchange) ∧
      ((sharesOf ["GPU-0-0"]).trace World.serve unlisted).countP meetsConflict < NodeLock.maxAttempts := by
    decide +kernel
  have uses : UsesQueue shares ⟨[["GPU-0-0"]]⟩ ["GPU-0-0"] := ⟨rfl, nofun, rfl⟩
  refine ⟨fails, ?_⟩
  obtain out | turn := (keeps_lock_discipline (executes_world (sharesOf ["GPU-0-0"]) unlisted)).1 _ uses
  · obtain ⟨cause, refused, -⟩ := out.refused
    cases fails.symm.trans refused
  · obtain ⟨taking, serving, releasing, _, _, _, all, -, -, -, -, unlocks⟩ := turn
    have whole : Undisturbed ((sharesOf ["GPU-0-0"]).trace World.serve unlisted) := ⟨succeeds, conflicts⟩
    rw [all] at whole
    refine unlocks (whole.sublist ?_)
    exact (List.sublist_append_right serving releasing).trans (List.sublist_append_right taking _)

end Calls

end GpuShare.Agent.Unreliable
