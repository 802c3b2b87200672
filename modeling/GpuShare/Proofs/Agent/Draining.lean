import Mathlib.Algebra.GroupWithZero.Nat
import GpuShare.Proofs.Lists
import GpuShare.Proofs.Wire.Queue
import GpuShare.Proofs.Agent.Cleanup
import GpuShare.Proofs.Agent.QueueLoss
import GpuShare.Proofs.Agent.LockDiscipline

/-!
No pod blocks the queue. A call whose calls on the cluster do not fail finds the queue empty, or it takes
something off the pod that it claims: a request, or the place in the queue. So the calls run out of pods,
whatever is written on these and whatever devices can be resolved.
-/

set_option autoImplicit false

namespace GpuShare.Agent.Unreliable

open Cluster Wire Claiming Serving Program

def requestsIn (grants : Grants) : Nat := grants.countP fun container => container.any (·.isOf nvidia)

/-- How many requests a pod has left; none if its annotation cannot be read. -/
def requestCount (pod : Pod) : Nat := requestsIn (podGrants pod)

/-- What a pod still adds to the queue: its requests, and one more as long as it can be selected. -/
def load (node : String) (pod : Pod) : Nat := if pod.waitsOn node then 1 + requestCount pod else 0

/-- How many calls the queue of a node can keep busy. -/
def backlog (node : String) (pods : List Pod) : Nat := (pods.map (load node)).sum

def failsOnStore : Exchange interface → Bool
  | ⟨.cluster _, .error _⟩ => true
  | _ => false

def Succeeds (exchanges : List (Exchange interface)) : Prop :=
  ∀ exchange ∈ exchanges, failsOnStore exchange = false

section Successes

variable {exchanges rest : List (Exchange interface)} {exchange : Exchange interface}

theorem Succeeds.left (succeeds : Succeeds (exchanges ++ rest)) : Succeeds exchanges :=
  fun exchange member => succeeds exchange (List.mem_append_left _ member)

theorem Succeeds.right (succeeds : Succeeds (exchanges ++ rest)) : Succeeds rest :=
  fun exchange member => succeeds exchange (List.mem_append_right _ member)

theorem failsOnStore_of_failsOnNode (fails : failsOnNode exchange) : failsOnStore exchange := by
  unfold failsOnNode at fails
  split at fails
  · rfl
  · rfl
  · cases fails

theorem failsOnStore_of_meetsConflict (meets : meetsConflict exchange) : failsOnStore exchange := by
  unfold meetsConflict at meets
  split at meets
  · rfl
  · cases meets

theorem failsOnStore_of_losesMark (loses : losesMark exchange) : failsOnStore exchange := by
  unfold losesMark at loses
  split at loses
  · rfl
  · cases loses

theorem Succeeds.of_mem (succeeds : Succeeds exchanges) (member : exchange ∈ exchanges)
    (fails : failsOnStore exchange) : False := by
  rw [succeeds exchange member] at fails
  cases fails

theorem Succeeds.conflicts (succeeds : Succeeds exchanges) : exchanges.countP meetsConflict = 0 :=
  List.countP_eq_zero.2 fun _ member meets =>
    succeeds.of_mem member (failsOnStore_of_meetsConflict meets)

theorem Succeeds.undisturbed (succeeds : Succeeds exchanges) : Undisturbed exchanges := by
  constructor
  · exact fun _ member fails => succeeds.of_mem member (failsOnStore_of_failsOnNode fails)
  · rw [succeeds.conflicts]
    decide

end Successes

/-! ## The lock -/

section Locks

variable {lock : NodeLock} {store after : Store} {exchanges : List (Exchange interface)} {stamp : String}

-- The first attempt gets a lock that nobody has.
theorem acquire_of_free {outcome : Except NodeLockError String} (free : lock.IsAt store.nodes none)
    (executes : lock.acquire.run.Executes Replies store exchanges outcome after)
    (succeeds : Succeeds exchanges) : ∃ stamp, outcome = .ok stamp := by
  obtain ⟨ends, passes⟩ := executes
  change (lock.acquireIn .rfc3339 (1 :: NodeLock.attemptsFrom 2 4)).run.Ends _ _ at ends
  obtain ⟨e, rfl, stopped⟩ | ⟨node, reading, rest, rfl, begins, goes⟩ := Attempt.ends_bind.1 ends
  · obtain ⟨answer, rfl, failed⟩ := callOr_ends stopped
    cases answer with
    | ok node => cases failed
    | error error => exact (succeeds.of_mem (List.mem_singleton_self _) rfl).elim
  obtain ⟨answer, rfl, is⟩ := callOr_ends begins
  cases answer with
  | error error => cases is
  | ok read =>
    cases is
    obtain ⟨middle, replied, -⟩ := passes
    obtain ⟨-, ⟨held, found, same⟩ | ⟨error, ⟨⟩⟩⟩ := getNode_cases replied
    obtain ⟨known, also, absent⟩ := free
    obtain rfl : node = known := (Except.ok.inj same).trans (Option.some.inj (found.symm.trans also))
    have passes : lock.checkFree .rfc3339 node = pure () := by
      rw [NodeLock.checkFree, absent]
    rw [passes, pure_bind] at goes
    obtain ⟨time, rest, rfl, goes⟩ := goes
    obtain ⟨e, rfl, stopped⟩ | ⟨written, writing, rest, rfl, writes, goes⟩ := Attempt.ends_bind.1 goes
    · obtain ⟨⟨⟩⟩ | ⟨⟨⟩, -⟩ | ⟨exchange, member, fails⟩ := write?_ends stopped
      exact (succeeds.of_mem (by simp [member]) (failsOnStore_of_failsOnNode fails)).elim
    cases written with
    | some done => exact ⟨_, goes.2⟩
    | none =>
      have quiet : writing.countP meetsConflict = 0 :=
        Succeeds.conflicts fun exchange member => succeeds exchange (by simp [member])
      obtain ⟨⟨⟩⟩ | ⟨-, once⟩ | ⟨exchange, member, fails⟩ := write?_ends writes
      · omega
      · exact (succeeds.of_mem (by simp [member]) (failsOnStore_of_failsOnNode fails)).elim

theorem Unlocked.isAt {before after : Dictionary Node} (unlocked : Unlocked lock before after) :
    lock.IsAt after none := by
  obtain ⟨_, freed, -, found, absent, -⟩ := unlocked.node
  exact ⟨freed, found, absent⟩

/-- A call that finds the lock free serves the queue, and leaves the lock free. -/
theorem serveLocked_of_free {config : AgentConfig} {remembered now : Option Mig.Partition}
    {ids : List String} {outcome : Except AllocationError ContainerResponse}
    (free : (queueLock config).IsAt store.nodes none)
    (executes : (serveLocked config remembered ids).Executes Replies store exchanges (outcome, now) after)
    (succeeds : Succeeds exchanges) :
    ∃ serving locked handed, (serveQueue config remembered ids).Executes Replies locked serving
        (outcome, now) handed ∧ Succeeds serving ∧ locked.pods = store.pods ∧ after.pods = handed.pods ∧
      (queueLock config).IsAt after.nodes none := by
  obtain ⟨ends, passes⟩ := executes
  have locks : ∀ {asked : List (Exchange interface)} {first last : Store},
      (∀ exchange ∈ asked, exchange.request.IsForLock) → Passes Replies first asked last →
      last.pods = first.pods := fun asked passes => passes.keeps fun exchange member _ _ replied =>
    pods_eq replied (asked exchange member).isQuiet.not_writesPod
  obtain ⟨cause, rfl, takes⟩ | ⟨taking, serving, releasing, stamp, freed, rfl, takes, serves, releases⟩ :=
    serveLocked_ends ends
  · obtain ⟨stamp, taken⟩ := acquire_of_free free ⟨takes, passes⟩ succeeds
    cases taken
  · obtain ⟨locked, begins, goes⟩ := passes_append.1 passes
    obtain ⟨handed, between, gives⟩ := passes_append.1 goes
    have same : handed.nodes = locked.nodes := between.keeps fun exchange member _ _ replied =>
      nodes_eq replied ((serveQueue_asks ..).of_ends serves exchange member)
    have unlocked := release_unlocks ((acquire_takes ⟨takes, begins⟩).congr same) ⟨releases, gives⟩
      succeeds.right.right.undisturbed
    refine ⟨serving, locked, handed, ⟨serves, between⟩, succeeds.right.left, ?_, ?_, unlocked.isAt⟩
    · exact locks (NodeLock.acquire_asks.of_ends takes) begins
    · exact locks ((NodeLock.release_asks stamp).of_ends releases) gives

end Locks

/-! ## The claimed pod -/

section Loads

variable {pod changed : Pod} {demand : Demand} {grants : Grants} {node : String}

theorem requestCount_of_queueOf (reads : queueOf pod = .ok grants) : requestCount pod = requestsIn grants := by
  unfold queueOf at reads
  rw [requestCount, podGrants, reads]

theorem requestCount_congr (same : queueOf changed = queueOf pod) :
    requestCount changed = requestCount pod := by
  unfold queueOf at same
  rw [requestCount, requestCount, podGrants, podGrants, same]

theorem requestsIn_eq (grants : Grants) : requestsIn grants = (grants.requests nvidia).length :=
  (Grants.length_requestsFrom nvidia 0 grants).symm

theorem requestsIn_erase {position : Nat} {request : List Grant}
    (next : grants.next? nvidia = some (position, request)) :
    requestsIn (grants.erase position nvidia) + 1 = requestsIn grants := by
  rw [requestsIn_eq, requestsIn_eq, Grants.requests_of_next next, List.length_cons]

-- An empty container that is not read back has no request.
theorem requestsIn_readBack (grants : Grants) :
    requestsIn (if grants = [[]] then [] else grants) = requestsIn grants := by
  split
  · next single =>
    rw [single]
    rfl
  · rfl

theorem requestCount_erased (wants : Wants pod demand) (version : String) :
    requestCount (patchedPod pod (erasePatch demand) version) + 1 = requestCount pod := by
  have plain := (Grants.isPlain_of_decode wants.grants).erase demand.position nvidia
  have written : (patchedPod pod (erasePatch demand) version).annotation? devicesToAllocate =
      some (demand.grants.erase demand.position nvidia).encode := by
    rw [annotation?_patchedPod, erasePatch, Patch.get?_one, if_pos rfl]
    rfl
  have reads : queueOf (patchedPod pod (erasePatch demand) version) =
      .ok (if demand.grants.erase demand.position nvidia = [[]] then []
        else demand.grants.erase demand.position nvidia) := by
    rw [queueOf, written]
    exact Grants.decode_encode plain
  rw [requestCount_of_queueOf reads, requestCount_of_queueOf wants.grants, requestsIn_readBack]
  exact requestsIn_erase wants.next

theorem load_of_settled (settled : pod.isSettled = true) : load node pod = 0 := by
  simp [load, Pod.waitsOn, settled]

theorem load_le (node : String) (pod : Pod) : load node pod ≤ 1 + requestCount pod := by
  unfold load
  split
  · exact Nat.le_refl _
  · exact Nat.zero_le _

end Loads

section Touching

variable {α : Type} {node : String} {store after : Store} {exchanges : List (Exchange interface)}
  {outcome : Except AllocationError α} {claim : Claim} {place : Nat} {pod changed : Pod}
  {patches : List Patch}

/-- A pod that a call claims has less to hand out afterwards, or is settled. -/
theorem Touches.load_lt
    (touches : Touches node store exchanges outcome after claim place pod changed patches)
    (are : AreNamed store.pods) (succeeds : Succeeds exchanges) : load node changed < load node pod := by
  have here : load node pod = 1 + requestCount pod := if_pos (touches.isListed are).1
  obtain ⟨-, -, ⟨version, is⟩, -, -, course, rewritten, -⟩ := touches
  cases course with
  | unmarked serves member lost => exact (succeeds.of_mem member (failsOnStore_of_losesMark lost)).elim
  | @marked _ patches serves =>
    have whole : Rewritten pod ((claimPatch :: patches) ++ [claim.failedPatch]) changed := rewritten
    rw [load_of_settled whole.isSettled, here]
    omega
  | served serves =>
    obtain ⟨wants, settles⟩ := serves
    rename_i demand last
    rw [is, wants_patchedPod leavesGrants_claimPatch] at wants
    obtain ⟨claiming, erasing, finished⟩ := rewritten
    have claimed : Wants (patchedPod pod claimPatch claiming) demand :=
      (wants_patchedPod leavesGrants_claimPatch).2 wants
    have leaves : LeavesGrants last := by
      cases settles with
      | givenBack => exact leavesGrants_one (by decide) _
      | bound => exact leavesGrants_one (by decide) _
    have first : Rewritten pod [claimPatch] (patchedPod pod claimPatch claiming) := ⟨claiming, rfl⟩
    have before := requestCount_congr (first.queueOf (List.forall_mem_singleton.2 leavesGrants_claimPatch))
    have erased := requestCount_erased claimed erasing
    have left := requestCount_congr (finished.queueOf (List.forall_mem_singleton.2 leaves))
    have bound := load_le node changed
    omega

end Touching

/-! ## Calls -/

section Calls

variable {config : AgentConfig} {remembered now : Option Mig.Partition} {resource : Resource}
  {request : AllocateRequest} {ids : List String} {store middle after : Store}
  {exchanges : List (Exchange interface)} {results : List (Except AllocationError AllocateResponse)}
  {result : Except AllocationError AllocateResponse}

theorem backlog_of_nextPod? {pods : List Pod} {node : String} (empty : nextPod? pods node = none) :
    backlog node pods = 0 := by
  apply List.sum_eq_zero_iff_forall_eq_nat.2
  intro amount member
  obtain ⟨pod, listed, rfl⟩ := List.mem_map.1 member
  simp [load, nextPod?_eq_none empty pod listed]

theorem claimNext_fails {node : String} {e : AllocationError}
    (ends : (claimNext node).run.Ends exchanges (.error e)) (succeeds : Succeeds exchanges) :
    e = .noPendingPod node ∧ ∃ pods, exchanges = [⟨.cluster .listPods, .ok pods⟩] ∧
      nextPod? pods node = none := by
  change (claimIn node (2 + 1) "").run.Ends _ _ at ends
  obtain ⟨_, same, stopped⟩ | ⟨pods, listing, rest, rfl, begins, goes⟩ := Attempt.ends_bind.1 ends
  · obtain ⟨answer, rfl, failed⟩ := callOr_ends stopped
    cases answer with
    | ok pods => cases failed
    | error error => exact (succeeds.of_mem (List.mem_singleton_self _) rfl).elim
  obtain ⟨answer, rfl, is⟩ := callOr_ends begins
  cases answer with
  | error error => cases is
  | ok read =>
    cases is
    split at goes
    · next nothing =>
      obtain ⟨rfl, same⟩ := goes
      cases same
      exact ⟨rfl, _, rfl, nothing⟩
    · obtain ⟨answer, rest, rfl, goes⟩ := goes
      cases answer with
      | ok claimed => cases goes.2
      | error error => exact (succeeds.right.of_mem List.mem_cons_self rfl).elim

theorem Takes.writes_ne_nil {node : String} {claim : Claim} (takes : Takes node claim exchanges) :
    writes exchanges ≠ [] := by
  obtain ⟨before, -, -⟩ := takes
  simp [writes, written?]

/-- A call whose calls on the cluster do not fail finds no pod, or serves one. -/
theorem serveQueue_finds {outcome : Except AllocationError ContainerResponse}
    (executes : (serveQueue config remembered ids).Executes Replies store exchanges (outcome, now) after)
    (succeeds : Succeeds exchanges) :
    (outcome = .error (.noPendingPod config.node) ∧ after.pods = store.pods ∧
        nextPod? store.pods config.node = none) ∨
      ∃ claim patches, ServesOne config.node claim exchanges outcome patches := by
  obtain ⟨ends, passes⟩ := executes
  obtain nothing | serves := serveQueue_ends ends
  · left
    have same := pods_of_passes passes nothing
    obtain ⟨claimed, first, rest, rfl, begins, goes⟩ := Program.ends_bind.1 ends
    rw [writes_append, List.append_eq_nil_iff] at nothing
    cases claimed with
    | error e =>
      obtain ⟨rfl, pods, rfl, empty⟩ := claimNext_fails begins succeeds.left
      obtain ⟨rfl, is⟩ := goes
      cases is
      obtain ⟨listed, replied, -⟩ := passes
      obtain ⟨-, read | ⟨error, ⟨⟩⟩⟩ := listPods_cases replied
      cases read
      exact ⟨rfl, same, empty⟩
    | ok claim =>
      obtain ⟨⟨e, ⟨⟩⟩, -⟩ | ⟨_, -, takes⟩ := claimIn_ends begins
      exact absurd nothing.1 takes.writes_ne_nil
  · exact .inr serves

def Completes (config : AgentConfig) (store : Store) (result : Except AllocationError AllocateResponse)
    (after : Store) : Prop :=
  ∃ remembered now resource request ids exchanges, UsesQueue resource request ids ∧
    (allocate config remembered resource request).Executes Replies store exchanges (result, now) after ∧
    Succeeds exchanges

inductive Completed (config : AgentConfig) :
    Store → List (Except AllocationError AllocateResponse) → Store → Prop where
  | done {store : Store} : Completed config store [] store
  | call {store middle after : Store} {result : Except AllocationError AllocateResponse}
      {results : List (Except AllocationError AllocateResponse)} :
      Completes config store result middle → Completed config middle results after →
      Completed config store (result :: results) after

/-- The pods have names, and nobody has the lock. -/
structure IsIdle (config : AgentConfig) (store : Store) : Prop where
  named : AreNamed store.pods
  free : (queueLock config).IsAt store.nodes none

inductive Drains (config : AgentConfig) (store after : Store) :
    Except AllocationError AllocateResponse → Prop where
  | empty : backlog config.node store.pods = 0 → after.pods = store.pods →
      Drains config store after (.error (.noPendingPod config.node))
  | less {result : Except AllocationError AllocateResponse} :
      backlog config.node after.pods < backlog config.node store.pods → Drains config store after result

theorem Completes.drains (completes : Completes config store result after) (idle : IsIdle config store) :
    IsIdle config after ∧ Drains config store after result := by
  obtain ⟨_, _, _, _, _, _, uses, ⟨ends, passes⟩, succeeds⟩ := completes
  obtain ⟨ids, served, -, shares, rfl⟩ | ⟨unused, -⟩ := allocate_ends ends
  · obtain ⟨serving, locked, handed, serves, succeeds, before, last, free⟩ :=
      serveLocked_of_free idle.free ⟨shares, passes⟩ succeeds
    have named := idle.named
    obtain ⟨rfl, same, empty⟩ | ⟨claim, patches, one⟩ := serveQueue_finds serves succeeds
    · rw [same, before] at last
      rw [before] at empty
      exact ⟨⟨last ▸ named, free⟩, .empty (backlog_of_nextPod? empty) last⟩
    · obtain ⟨place, pod, changed, touches⟩ := one.touches serves.passes
      rw [← before] at named
      have pods : after.pods = locked.pods.set place changed := last.trans touches.pods
      have rest := touches.rewritten.sameBesides
      have keeps : changed.metadata.ns = pod.metadata.ns ∧ changed.metadata.name = pod.metadata.name := by
        rw [rest]
        exact ⟨rfl, rfl⟩
      refine ⟨⟨?_, free⟩, .less ?_⟩
      · rw [pods]
        exact named.set touches.held keeps
      · have held : (locked.pods.map (load config.node))[place]? = some (load config.node pod) := by
          rw [List.getElem?_map, touches.held]
          rfl
        rw [pods, ← before, backlog, backlog, List.map_set]
        exact sum_set_lt held (touches.load_lt named succeeds)
  · exact absurd uses (unused _)

theorem Completed.isIdle (completed : Completed config store results after) (idle : IsIdle config store) :
    IsIdle config after := by
  induction completed with
  | done => exact idle
  | call first _ ih => exact ih (first.drains idle).1

-- Each call before leaves the queue empty or takes at least one off the backlog.
theorem Completed.noPendingPod (completed : Completed config store results after)
    (idle : IsIdle config store) {k : Nat} (called : results[k]? = some result)
    (enough : backlog config.node store.pods ≤ k) : result = .error (.noPendingPod config.node) := by
  induction completed generalizing k with
  | done => cases called
  | @call store middle after first results completes rest ih =>
    obtain ⟨still, drains⟩ := completes.drains idle
    cases k with
    | zero =>
      obtain rfl := Option.some.inj called
      cases drains with
      | empty => rfl
      | less smaller => omega
    | succ k =>
      have called : results[k]? = some result := called
      refine ih still called ?_
      cases drains with
      | empty nothing same =>
        rw [same, nothing]
        exact Nat.zero_le k
      | less smaller => omega

/-- Calls for shares on any pods that have names, with any IDs and any devices, once the lock is free and as
long as no call on the cluster fails. Every call leaves a smaller backlog, unless there is none: then it answers
that no pod is pending and changes none. So all calls after as many as the backlog answer that no pod is
pending. -/
theorem drains_queue {before : Store} (named : AreNamed store.pods)
    (free : (queueLock config).IsAt store.nodes none) (completed : Completed config store results before) :
    (∀ result after, Completes config before result after →
      (backlog config.node before.pods = 0 ∧ result = .error (.noPendingPod config.node) ∧
          after.pods = before.pods) ∨
        backlog config.node after.pods < backlog config.node before.pods) ∧
    ∀ k result, results[k]? = some result → backlog config.node store.pods ≤ k →
      result = .error (.noPendingPod config.node) := by
  have idle : IsIdle config store := ⟨named, free⟩
  constructor
  · intro result after completes
    cases (completes.drains (completed.isIdle idle)).2 with
    | empty nothing same => exact .inl ⟨nothing, rfl, same⟩
    | less smaller => exact .inr smaller
  · exact fun k result called enough => completed.noPendingPod idle called enough

end Calls

/-- A pod with an annotation that cannot be read, and one with a device that is not there. -/
def clogged : State :=
  { twoPods with world := twoPods.world.mapStore fun store => { store with pods := [
      assignedPod "broken" "1" "GPU-1,NVIDIA" [],
      assignedPod "lost" "2" "GPU-9[small-1],NVIDIA,1000,30:" [⟨"main", [], .empty⟩]] } }

theorem completes_call (state : State) (ids : List String)
    (succeeds : ∀ exchange ∈ (allocate sharingAgent state.remembered shares ⟨[ids]⟩).trace World.serve
      state.world, failsOnStore exchange = false) :
    Completes sharingAgent state.world.connection.store (call sharingAgent shares state ids).1
      (call sharingAgent shares state ids).2.world.connection.store := by
  have uses : UsesQueue shares ⟨[ids]⟩ ids := ⟨rfl, nofun, rfl⟩
  have executes := executes_world (allocate sharingAgent state.remembered shares ⟨[ids]⟩) state.world
  exact ⟨_, _, shares, ⟨[ids]⟩, ids, _, uses, executes, succeeds⟩

def afterCalls (calls : List (List String)) : State := after sharingAgent shares clogged calls

-- Neither pod can be served, and the fourth call finds no pod any more.
theorem drains_queue_clogged :
    AreNamed clogged.pods ∧ (queueLock sharingAgent).IsAt clogged.world.connection.store.nodes none ∧
    backlog sharingAgent.node clogged.pods = 3 ∧
    (call sharingAgent shares (afterCalls [["a"], ["b"], []]) ["c"]).1 =
      .error (.noPendingPod sharingAgent.node) := by
  have named : AreNamed clogged.pods := ⟨by decide +kernel, by decide +kernel⟩
  have free : (queueLock sharingAgent).IsAt clogged.world.connection.store.nodes none := ⟨_, rfl, rfl⟩
  have amount : backlog sharingAgent.node clogged.pods = 3 := by decide +kernel
  have first := completes_call clogged ["a"] (by decide +kernel)
  have second := completes_call (afterCalls [["a"]]) ["b"] (by decide +kernel)
  have third := completes_call (afterCalls [["a"], ["b"]]) [] (by decide +kernel)
  have fourth := completes_call (afterCalls [["a"], ["b"], []]) ["c"] (by decide +kernel)
  have completed := Completed.call first (.call second (.call third (.call fourth .done)))
  exact ⟨named, free, amount, (drains_queue named free completed).2 3 _ rfl (Nat.le_of_eq amount)⟩

end GpuShare.Agent.Unreliable
