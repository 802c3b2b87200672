import GpuShare.Proofs.Agent.PodEffects
import GpuShare.Proofs.Agent.InOrder

/-!
What a failed call leaves of the queue. The queue of every pod is as it was as long as the request is not
erased. Once it is erased it is lost: the call marks the pod failed and does not put the request back.
-/

set_option autoImplicit false

namespace GpuShare.Agent.Unreliable

open Cluster Wire Claiming Serving Program

/-- What the annotation of a pod leaves to hand out, or why it cannot be read. -/
def queueOf (pod : Pod) : Except DecodeError Grants :=
  Grants.decode ((pod.annotation? devicesToAllocate).getD "")

def erasesRequest (exchange : Exchange interface) : Bool :=
  (written? exchange).any fun write => (write.2.get? devicesToAllocate).isSome

variable {α : Type} {node : String} {store after : Store} {exchanges : List (Exchange interface)}
  {outcome : Except AllocationError α} {claim : Claim} {place : Nat} {pod changed : Pod}
  {patches : List Patch} {demand : Demand} {e : AllocationError} {key : Key}

theorem queues_set_iff {pods : List Pod} (held : pods[place]? = some pod) :
    (pods.set place changed).map queueOf = pods.map queueOf ↔ queueOf changed = queueOf pod := by
  obtain ⟨below, is⟩ := List.getElem?_eq_some_iff.1 held
  rw [List.map_set]
  constructor
  · intro same
    have here := congrArg (·[place]?) same
    simpa [below, is] using here
  · intro same
    rw [same, ← is, ← List.getElem_map queueOf (h := by rwa [List.length_map])]
    exact List.set_getElem_self _

theorem exists_erasesRequest (wrote : writes exchanges = patches.map (key, ·)) :
    (∃ exchange ∈ exchanges, erasesRequest exchange) ↔ ∃ patch ∈ patches, ¬ LeavesGrants patch := by
  have among : (∃ exchange ∈ exchanges, erasesRequest exchange) ↔
      ∃ write ∈ writes exchanges, ¬ LeavesGrants write.2 := by
    simp only [writes, List.mem_filterMap, erasesRequest, Option.any_eq_true, LeavesGrants,
      ← Option.isSome_iff_ne_none]
    constructor
    · rintro ⟨exchange, member, write, written, names⟩
      exact ⟨write, ⟨exchange, member, written⟩, names⟩
    · rintro ⟨write, ⟨exchange, member, written⟩, names⟩
      exact ⟨exchange, member, write, written, names⟩
  rw [among, wrote]
  simp

theorem grantsAt_of_queueOf (same : queueOf changed = queueOf pod) : grantsAt changed = grantsAt pod := by
  funext position
  unfold queueOf at same
  rw [grantsAt, grantsAt, same]

theorem Rewritten.queueOf (rewritten : Rewritten pod patches changed)
    (leaves : ∀ patch ∈ patches, LeavesGrants patch) : queueOf changed = queueOf pod := by
  rw [Unreliable.queueOf, rewritten.annotation?, valueAfter_of_absent leaves]
  rfl

theorem wants_patchedPod {patch : Patch} {version : String} (leaves : LeavesGrants patch) :
    Wants (patchedPod pod patch version) demand ↔ Wants pod demand := by
  have same : (patchedPod pod patch version).annotation? devicesToAllocate =
      pod.annotation? devicesToAllocate := by
    rw [annotation?_patchedPod, show patch.get? devicesToAllocate = none from leaves]
    rfl
  constructor
  · rintro ⟨grants, next, container⟩
    exact ⟨by rwa [same] at grants, next, container⟩
  · rintro ⟨grants, next, container⟩
    exact ⟨by rwa [same], next, container⟩

/-- A pod has lost all that one of its requests asked for, and nothing else of its queue. -/
def LosesRequest (pod changed : Pod) (demand : Demand) : Prop :=
  Wants pod demand ∧ ∀ position, grantsAt changed position =
    if position = demand.position then (grantsAt pod position).filter (!·.isOf nvidia)
    else grantsAt pod position

-- What a request asked for is something, so a pod that has lost it has another queue.
theorem LosesRequest.queueOf_ne (loses : LosesRequest pod changed demand) : queueOf changed ≠ queueOf pod := by
  obtain ⟨wants, rest⟩ := loses
  intro same
  obtain ⟨is, some_grant⟩ := wants.request_eq
  have left := rest demand.position
  rw [if_pos rfl, grantsAt_of_queueOf same] at left
  refine some_grant (is.trans (List.filter_eq_nil_iff.2 fun grant member => ?_))
  rw [left] at member
  simpa using (List.mem_filter.1 member).2

theorem Rewritten.losesRequest (rewritten : Rewritten pod (claimPatch :: erasePatch demand :: patches) changed)
    (wants : Wants pod demand) (leaves : ∀ patch ∈ patches, LeavesGrants patch) :
    LosesRequest pod changed demand := by
  obtain ⟨version, later, rewritten⟩ := rewritten
  refine ⟨wants, fun position => ?_⟩
  have claimed : Wants (patchedPod pod claimPatch version) demand :=
    (wants_patchedPod leavesGrants_claimPatch).2 wants
  rw [grantsAt_of_queueOf (rewritten.queueOf leaves), claimed.grantsAt_erased,
    grantsAt_of_leaves leavesGrants_claimPatch]

theorem leavesGrants_failedPatch (claim : Claim) : LeavesGrants claim.failedPatch := by
  rw [LeavesGrants, Claim.failedPatch, Dictionary.get?_insert, if_neg (by decide), Patch.get?_one,
    if_neg (by decide)]

theorem not_leavesGrants_erasePatch : ¬ LeavesGrants (erasePatch demand) := by
  rw [LeavesGrants, erasePatch, Patch.get?_one, if_pos rfl]
  exact Option.some_ne_none _

-- A call that fails has erased nothing, or one request and written only marks after it.
theorem Touches.failed
    (touches : Touches node store exchanges (.error e : Except _ α) after claim place pod changed patches) :
    (∀ patch ∈ patches, LeavesGrants patch) ∨ ∃ demand late, Wants pod demand ∧
      patches = erasePatch demand :: late ∧ ∀ patch ∈ late, LeavesGrants patch := by
  obtain ⟨-, -, ⟨version, is⟩, -, -, course, -, -⟩ := touches
  have marks : ∀ patch ∈ [claim.failedPatch], LeavesGrants patch :=
    List.forall_mem_singleton.2 (leavesGrants_failedPatch claim)
  have ofClaim : ∀ {demand}, Wants claim.pod demand → Wants pod demand := by
    intro demand wants
    rw [is] at wants
    exact (wants_patchedPod leavesGrants_claimPatch).1 wants
  cases course with
  | marked serves =>
    cases serves with
    | failed => exact .inl marks
    | failedLate wants => exact .inr ⟨_, _, ofClaim wants, rfl, marks⟩
  | unmarked serves member lost =>
    cases serves with
    | failed => exact .inl (List.forall_mem_nil _)
    | failedLate wants => exact .inr ⟨_, _, ofClaim wants, rfl, List.forall_mem_nil _⟩

section Calls

variable {config : AgentConfig} {remembered now : Option Mig.Partition} {resource : Resource}
  {request : AllocateRequest} {result : Except AllocationError AllocateResponse}

-- A call that fails keeps the queues of all pods just if its erasing write has not gone through. If it has,
-- one pod has lost the request and all others are as they were.
theorem keeps_queues_iff
    (executes : (allocate config remembered resource request).Executes Replies store exchanges
      (result, now) after)
    (fails : result = .error e) :
    (after.pods.map queueOf = store.pods.map queueOf ↔
      ∀ exchange ∈ exchanges, ¬ erasesRequest exchange) ∧
    ((∃ exchange ∈ exchanges, erasesRequest exchange) → ∃ place pod changed demand,
      store.pods[place]? = some pod ∧ after.pods = store.pods.set place changed ∧
      LosesRequest pod changed demand) := by
  subst fails
  obtain ⟨ends, passes⟩ := executes
  obtain nothing | ⟨claim, patches, serves⟩ := allocate_writes ends
  · have kept : ∀ exchange ∈ exchanges, ¬ erasesRequest exchange := by
      intro exchange member erases
      have wrote : writes exchanges = ([] : List Patch).map (("", ""), ·) := nothing
      obtain ⟨patch, ⟨⟩, -⟩ := (exists_erasesRequest wrote).1 ⟨exchange, member, erases⟩
    rw [pods_of_passes passes nothing]
    exact ⟨iff_of_true rfl kept, fun ⟨exchange, member, erases⟩ => absurd erases (kept exchange member)⟩
  obtain ⟨place, pod, changed, touches⟩ := serves.touches passes
  have erases := exists_erasesRequest touches.wrote
  obtain leaves | ⟨demand, late, wants, rfl, leaves⟩ := touches.failed
  · have all : ∀ patch ∈ claimPatch :: patches, LeavesGrants patch :=
      List.forall_mem_cons.2 ⟨leavesGrants_claimPatch, leaves⟩
    have none_erases : ¬ ∃ exchange ∈ exchanges, erasesRequest exchange := by
      rintro some_erases
      obtain ⟨patch, member, names⟩ := erases.1 some_erases
      exact names (all patch member)
    rw [touches.pods, queues_set_iff touches.held]
    exact ⟨iff_of_true (touches.rewritten.queueOf all)
      fun exchange member is => none_erases ⟨exchange, member, is⟩, fun is => absurd is none_erases⟩
  · have loses := touches.rewritten.losesRequest wants leaves
    have some_erases : ∃ exchange ∈ exchanges, erasesRequest exchange :=
      erases.2 ⟨erasePatch demand, by simp, not_leavesGrants_erasePatch⟩
    refine ⟨?_, fun _ => ⟨place, pod, changed, demand, touches.held, touches.pods, loses⟩⟩
    rw [touches.pods, queues_set_iff touches.held]
    obtain ⟨exchange, member, is⟩ := some_erases
    exact iff_of_false loses.queueOf_ne fun kept => kept exchange member is

/-- A pod waits for a share, and a file is where the directories of containers belong. -/
def obstructed : World where
  connection := { store := {
    pods := [assignedPod "job" "100" "GPU-0,NVIDIA,2048,30:" [⟨"ctr-0", [], .empty⟩]]
    nodes := Dictionary.empty.insert "node-a" ⟨⟨none, some "node-a", none, some "first", none⟩⟩ } }
  inventory := { gpus := [⟨0, "GPU-0", "A100", 40960, false, true⟩] }
  disk := Disk.empty.addFile ⟨"/tmp/vgpu/containers"⟩ .empty

-- A call for too many devices fails before it erases anything.
theorem keeps_queues_mismatch :
    (∃ e, ((sharesOf ["GPU-0-3", "GPU-0-4"]).run World.serve obstructed).1.1 = .error e) ∧
    ((sharesOf ["GPU-0-3", "GPU-0-4"]).run World.serve obstructed).2.connection.store.pods.map queueOf =
      obstructed.connection.store.pods.map queueOf := by
  obtain ⟨fails, keeps⟩ : ((sharesOf ["GPU-0-3", "GPU-0-4"]).run World.serve obstructed).1.1 =
        .error (.countMismatch "default/job" 1 ["GPU-0-3", "GPU-0-4"]) ∧
      ∀ exchange ∈ (sharesOf ["GPU-0-3", "GPU-0-4"]).trace World.serve obstructed,
        ¬ erasesRequest exchange := by decide +kernel
  exact ⟨⟨_, fails⟩, (keeps_queues_iff (executes_world _ obstructed) fails).1.2 keeps⟩

-- A call whose container directory cannot be made fails, and the request it took is gone.
theorem loses_request_obstructed :
    ((sharesOf ["GPU-0-3"]).run World.serve obstructed).1.1 =
      .error (.hostDirectory "/tmp/vgpu/containers/job_ctr-0") ∧
    ((sharesOf ["GPU-0-3"]).run World.serve obstructed).2.connection.store.pods.map queueOf ≠
      obstructed.connection.store.pods.map queueOf := by decide +kernel

end Calls

end GpuShare.Agent.Unreliable
