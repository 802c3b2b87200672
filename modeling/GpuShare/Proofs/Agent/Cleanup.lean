import GpuShare.Proofs.Agent.PodEffects
import GpuShare.Proofs.Agent.InOrder

/-!
What a call that fails leaves of the pod it has claimed. If the write that marks the pod goes through, the pod
is failed and has the assigned time back that it had. A call that claims no pod changes none, and so no call
leaves a pod that stays claimed for ever.
-/

set_option autoImplicit false

namespace GpuShare.Agent.Unreliable

open Cluster Wire Claiming Serving Program

section Values

variable {key : String} {patches : List Patch} {claim : Claim} {pod : Pod}

theorem valueAfter_concat (patches : List Patch) (last : Patch) (value : Option String) :
    valueAfter key (patches ++ [last]) value = (last.get? key).getD (valueAfter key patches value) := by
  induction patches generalizing value with
  | nil => rfl
  | cons patch patches ih => exact ih _

theorem Rewritten.annotation?_last {changed : Pod} {last : Patch} {value : Option String}
    (rewritten : Rewritten pod (patches ++ [last]) changed) (named : last.get? key = some value) :
    changed.annotation? key = value := by
  rw [rewritten.annotation?, valueAfter_concat, named, Option.getD_some]

theorem get?_failedPatch (claim : Claim) (key : String) : claim.failedPatch.get? key =
    if key = assignedTime then some claim.originalTime
    else if key = bindPhase then some (some Phase.failed.text) else none := by
  rw [Claim.failedPatch, Dictionary.get?_insert, Patch.get?_one]

theorem Serves.get?_eq_none (serves : Serves claim false patches) (other : key ≠ devicesToAllocate) :
    ∀ patch ∈ patches, patch.get? key = none := by
  cases serves with
  | failed => exact List.forall_mem_nil _
  | failedLate wants =>
    rw [List.forall_mem_singleton, erasePatch, Patch.get?_one, if_neg other]

-- A pod is settled once its phase is one of the two last ones.
theorem isSettled_of_phase {phase : Phase} (marked : pod.annotation? bindPhase = some phase.text)
    (terminal : phase.isTerminal = true) : pod.isSettled = true := by
  rw [Pod.isSettled, marked, Option.bind_some, Phase.read?_text]
  exact terminal

theorem Rewritten.isSettled {changed : Pod} (rewritten : Rewritten pod (patches ++ [claim.failedPatch]) changed) :
    changed.isSettled = true :=
  isSettled_of_phase (rewritten.annotation?_last (get?_failedPatch claim bindPhase)) rfl

end Values

/-- A pod after a call that claimed it has failed. -/
structure CleanedUp (pod changed : Pod) : Prop where
  failed : changed.annotation? bindPhase = some Phase.failed.text
  time : changed.annotation? assignedTime = pod.annotation? assignedTime
  others : ∀ key, key ≠ bindPhase → key ≠ assignedTime → key ≠ devicesToAllocate →
    changed.annotation? key = pod.annotation? key
  rest : SameBesides pod changed

variable {α : Type} {node : String} {store after : Store} {exchanges : List (Exchange interface)}
  {outcome : Except AllocationError α} {claim : Claim} {place : Nat} {pod changed : Pod}
  {patches : List Patch} {e : AllocationError}

-- The pod that was listed is the one that was claimed, as no two pods have the same name.
theorem Touches.isListed
    (touches : Touches node store exchanges outcome after claim place pod changed patches)
    (are : AreNamed store.pods) :
    pod.waitsOn node = true ∧ claim.originalTime = pod.annotation? assignedTime := by
  obtain ⟨listed, member, waits, keyed, time⟩ := touches.listed
  obtain ⟨index, held⟩ := List.getElem?_of_mem member
  have same := (are.find? held keyed).symm.trans (touches.at_.find?.trans touches.held)
  obtain rfl := Option.some.inj same
  exact ⟨waits, time⟩

theorem Touches.cleanedUp
    (touches : Touches node store exchanges (.error e : Except _ α) after claim place pod changed patches)
    (are : AreNamed store.pods) (marks : ∀ exchange ∈ exchanges, ¬ losesMark exchange) :
    CleanedUp pod changed := by
  have time := (touches.isListed are).2
  obtain ⟨-, -, -, -, -, course, rewritten, -⟩ := touches
  cases course with
  | unmarked serves member lost => exact absurd lost (marks _ member)
  | @marked _ patches serves =>
    have whole : Rewritten pod ((claimPatch :: patches) ++ [claim.failedPatch]) changed := rewritten
    refine ⟨?_, ?_, fun key notPhase notTime notGrants => ?_, rewritten.sameBesides⟩
    · exact whole.annotation?_last (by rw [get?_failedPatch, if_neg (by decide), if_pos rfl])
    · exact (whole.annotation?_last (by rw [get?_failedPatch, if_pos rfl])).trans time
    · refine (rewritten.annotation? key).trans (valueAfter_of_absent ?_ _)
      have last : claim.failedPatch.get? key = none := by
        rw [get?_failedPatch, if_neg notTime, if_neg notPhase]
      have first : claimPatch.get? key = none := by
        rw [claimPatch, Patch.get?_one, if_neg notTime]
      have between := serves.get?_eq_none notGrants
      exact List.forall_mem_cons.2
        ⟨first, List.forall_mem_append.2 ⟨between, List.forall_mem_singleton.2 last⟩⟩

-- Whether it is served or fails, a call gives its claim back or settles the pod.
theorem Touches.not_abandoned
    (touches : Touches node store exchanges outcome after claim place pod changed patches)
    (marks : ∀ exchange ∈ exchanges, ¬ losesMark exchange) :
    changed.isClaimed = false ∨ changed.isSettled = true := by
  obtain ⟨listed, -, waits, -, time⟩ := touches.listed
  have free := Pod.isClaimed_of_waitsOn waits
  obtain ⟨-, -, -, -, -, course, rewritten, -⟩ := touches
  cases course with
  | unmarked serves member lost => exact absurd lost (marks _ member)
  | @marked _ patches serves =>
    have whole : Rewritten pod ((claimPatch :: patches) ++ [claim.failedPatch]) changed := rewritten
    exact .inr whole.isSettled
  | served serves =>
    obtain ⟨wants, settles⟩ := serves
    rename_i demand last
    have whole : Rewritten pod ([claimPatch, erasePatch demand] ++ [last]) changed := rewritten
    cases settles with
    | givenBack =>
      have back := whole.annotation?_last (Patch.get?_one assignedTime assignedTime _)
      exact .inl ((isClaimed_congr (back.trans time)).trans free)
    | bound =>
      have marked : changed.annotation? bindPhase = some Phase.success.text :=
        whole.annotation?_last (Patch.get?_one bindPhase bindPhase _)
      exact .inr (isSettled_of_phase marked rfl)

section Calls

variable {config : AgentConfig} {remembered now : Option Mig.Partition} {resource : Resource}
  {request : AllocateRequest} {result : Except AllocationError AllocateResponse}

-- A call that fails after it claimed a pod leaves this pod failed and with its time, and changes no other.
-- A call that claims no pod changes none. No call leaves a pod claimed that is not settled.
theorem cleans_up (are : AreNamed store.pods)
    (executes : (allocate config remembered resource request).Executes Replies store exchanges
      (result, now) after)
    (marks : ∀ exchange ∈ exchanges, ¬ losesMark exchange) :
    (∀ e key, result = .error e → (∃ exchange ∈ exchanges, Claims key exchange) →
      ∃ place pod changed, store.pods[place]? = some pod ∧ keyOf pod = key ∧
        after.pods = store.pods.set place changed ∧ CleanedUp pod changed) ∧
    ((∀ key, ∀ exchange ∈ exchanges, ¬ Claims key exchange) → after.pods = store.pods) ∧
    ∀ (place : Nat) (pod : Pod), after.pods[place]? = some pod → pod.isClaimed = true → pod.isSettled = false →
      store.pods[place]? = some pod := by
  obtain ⟨ends, passes⟩ := executes
  obtain nothing | ⟨claim, patches, serves⟩ := allocate_writes ends
  · have same := pods_of_passes passes nothing
    refine ⟨fun e key failed claims => ?_, fun _ => same, fun place pod held _ _ => by rwa [same] at held⟩
    obtain ⟨exchange, member, claims⟩ := claims
    exact absurd claims (not_claims_of_writes nothing key exchange member)
  obtain ⟨place, pod, changed, touches⟩ := serves.touches passes
  refine ⟨?_, ?_, ?_⟩
  · rintro e key rfl ⟨exchange, member, claims⟩
    have same : key = claim.key := key_eq_of_claims touches.wrote member claims
    refine ⟨place, pod, changed, touches.held, ?_, touches.pods, touches.cleanedUp are marks⟩
    rw [same]
    exact keyOf_of_isNamed (touches.at_.named touches.held)
  · intro unclaimed
    have wrote : (claim.key, claimPatch) ∈ writes exchanges := by
      rw [touches.wrote]
      exact List.mem_cons_self
    obtain ⟨exchange, member, claims⟩ := exists_claims wrote
    exact absurd claims (unclaimed _ exchange member)
  · intro place' pod' held claimed unsettled
    rw [touches.pods] at held
    by_cases here : place = place'
    · subst here
      have is : changed = pod' := by
        rw [List.getElem?_set_self (List.getElem?_eq_some_iff.1 touches.held).1] at held
        exact Option.some.inj held
      subst is
      obtain free | settled := touches.not_abandoned marks
      · cases free.symm.trans claimed
      · cases unsettled.symm.trans settled
    · rwa [List.getElem?_set_ne here] at held

/-- Two pods wait. The first claim meets a conflict, and the look before the last write fails. -/
def timingOut : World :=
  (twoPods.world.mapStore fun store => { store with podConflicts := 1 }).addFaults
    [⟨.getPod, 0, 1, fun _ => .requestFailed "timed out"⟩]

-- The pod that was assigned first is claimed and its request erased, and then the call fails.
theorem cleans_up_timingOut :
    AreNamed timingOut.connection.store.pods ∧
    (∀ exchange ∈ (sharesOf ["GPU-0-0"]).trace World.serve timingOut, ¬ losesMark exchange) ∧
    ∃ place pod changed, timingOut.connection.store.pods[place]? = some pod ∧
      keyOf pod = ("default", "early") ∧
      ((sharesOf ["GPU-0-0"]).run World.serve timingOut).2.connection.store.pods =
        timingOut.connection.store.pods.set place changed ∧
      CleanedUp pod changed := by
  have are : AreNamed timingOut.connection.store.pods := ⟨by decide +kernel, by decide +kernel⟩
  obtain ⟨fails, claims, marks⟩ : ((sharesOf ["GPU-0-0"]).run World.serve timingOut).1.1 =
        .error (.annotationUpdate "default/early" (.requestFailed "timed out")) ∧
      (("default", "early"), claimPatch) ∈ writes ((sharesOf ["GPU-0-0"]).trace World.serve timingOut) ∧
      ∀ exchange ∈ (sharesOf ["GPU-0-0"]).trace World.serve timingOut, ¬ losesMark exchange := by decide +kernel
  obtain ⟨cleans, -, -⟩ := cleans_up are (executes_world (sharesOf ["GPU-0-0"]) timingOut) marks
  exact ⟨are, marks, cleans _ _ fails (exists_claims claims)⟩

end Calls

end GpuShare.Agent.Unreliable
