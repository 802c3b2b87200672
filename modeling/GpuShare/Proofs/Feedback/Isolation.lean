import GpuShare.Proofs.Feedback.Observed

/-!
Carriers of which any calls may fail. A container one of whose calls fails in the first pass is left as it
was, and to the others it is as if it were not there. What fails in the second pass stays with its container.
-/

set_option autoImplicit false

namespace GpuShare.Feedback

open Faithful

namespace Faulty

variable {σ α β : Type} {carrier : Faulty σ} {method : Method}

def failsNext (carrier : Faulty σ) (method : Method) : Bool :=
  carrier.fails method (carrier.calls.count method + 1)

def called (carrier : Faulty σ) (method : Method) (inner : σ) : Faulty σ :=
  { carrier with calls := method :: carrier.calls, inner := inner }

theorem failsNext_called {other : Method} (differs : method ≠ other) (inner : σ) :
    (carrier.called method inner).failsNext other = carrier.failsNext other := by
  have same : (method :: carrier.calls).count other = carrier.calls.count other :=
    List.count_cons_of_ne differs
  unfold failsNext called
  rw [same]

theorem call_eq (method : Method) (access : Access σ α) (carrier : Faulty σ) :
    call method access carrier =
      if carrier.failsNext method then (.error ⟨"injected"⟩, carrier.called method carrier.inner)
      else ((access carrier.inner).1, carrier.called method (access carrier.inner).2) := by
  unfold call failsNext
  dsimp only
  split
  · rfl
  · rfl

variable [Signals σ] [Faithful σ]

/-- A call of the first pass fails; a counter is written to only if it is positive. -/
def failsFirst (carrier : Faulty σ) : Bool :=
  carrier.failsNext .priority || carrier.failsNext .deviceUuids || carrier.failsNext .recentKernel ||
    decide (0 < (view carrier.inner).recentKernel) && carrier.failsNext .setRecentKernel

structure IsUntouched (before after : Faulty σ) : Prop where
  writes : after.writes = before.writes
  shows : view after.inner = view before.inner

theorem IsUntouched.called {inner : σ} (shown : view inner = view carrier.inner) :
    carrier.IsUntouched (carrier.called method inner) := ⟨rfl, shown⟩

theorem IsUntouched.trans {middle after : Faulty σ} (first : carrier.IsUntouched middle)
    (second : middle.IsUntouched after) : carrier.IsUntouched after :=
  ⟨second.writes.trans first.writes, second.shows.trans first.shows⟩

/-- An access fails just if it is said to, and if it fails it has changed nothing that is shown. -/
inductive FailsCleanly (carrier : Faulty σ) : Bool → Except StorageFailure α × Faulty σ → Prop where
  | failed {failure : StorageFailure} {after : Faulty σ} :
      carrier.IsUntouched after → FailsCleanly carrier true (.error failure, after)
  | passed {a : α} {after : Faulty σ} : FailsCleanly carrier false (.ok a, after)

theorem FailsCleanly.isOk_eq {fails : Bool} {outcome : Except StorageFailure α × Faulty σ}
    (cleanly : carrier.FailsCleanly fails outcome) : outcome.1.isOk = !fails := by
  cases cleanly with
  | failed _ => rfl
  | passed => rfl

theorem FailsCleanly.untouched {outcome : Except StorageFailure α × Faulty σ}
    (cleanly : carrier.FailsCleanly true outcome) : carrier.IsUntouched outcome.2 := by
  cases cleanly with
  | failed untouched => exact untouched

-- A call that reads fails or answers what the carrier shows, and what it shows stays.
theorem call_of_reads (method : Method) {access : Access σ α} {value : Plain → α}
    (reads : Mirrors view Reliable access fun record => (.ok (value record), record))
    (reliable : Reliable carrier.inner) :
    ∃ inner, Reliable inner ∧ view inner = view carrier.inner ∧
      call method access carrier =
        (if carrier.failsNext method then .error ⟨"injected"⟩ else .ok (value (view carrier.inner)),
          carrier.called method inner) := by
  rw [call_eq]
  split
  · exact ⟨carrier.inner, reliable, rfl, rfl⟩
  · obtain ⟨answer, shown, kept⟩ := reads carrier.inner reliable
    exact ⟨_, kept, shown, by rw [answer]⟩

theorem FailsCleanly.bind {fails later : Bool} (is : carrier.failsNext method = fails)
    {access : Access σ α} {value : Plain → α}
    (reads : Mirrors view Reliable access fun record => (.ok (value record), record))
    (reliable : Reliable carrier.inner) {next : α → Access (Faulty σ) β}
    (rest : ∀ inner, Reliable inner → view inner = view carrier.inner →
      (carrier.called method inner).FailsCleanly later
        (next (value (view carrier.inner)) (carrier.called method inner))) :
    carrier.FailsCleanly (fails || later) ((call method access >>= next) carrier) := by
  obtain ⟨inner, kept, shown, called⟩ := call_of_reads method reads reliable
  have untouched : carrier.IsUntouched (carrier.called method inner) := .called shown
  rw [access_bind, called, is]
  cases fails with
  | true => exact .failed untouched
  | false =>
    have goes := rest inner kept shown
    show carrier.FailsCleanly later (next _ _)
    generalize next (value (view carrier.inner)) (carrier.called method inner) = outcome at goes ⊢
    cases goes with
    | failed still => exact .failed (untouched.trans still)
    | passed => exact .passed

theorem write_failsCleanly {fails : Bool} (is : carrier.failsNext method = fails)
    {access : Access σ Unit} {plain : Plain → Plain}
    (writes : Mirrors view Reliable access fun record => (.ok (), plain record))
    (reliable : Reliable carrier.inner) (value : Int32) (result : β) :
    carrier.FailsCleanly fails
      ((write method value access >>= fun _ => pure result : Access (Faulty σ) β) carrier) := by
  obtain ⟨answer, -, -⟩ := writes carrier.inner reliable
  unfold write
  rw [access_bind, access_bind, call_eq, is]
  cases fails with
  | true => exact .failed (.called rfl)
  | false =>
    rw [if_neg Bool.false_ne_true, answer]
    exact .passed

omit [Faithful σ] in
/-- The first pass over a carrier, call by call. -/
theorem age_eq (carrier : Faulty σ) : age carrier =
    (call .priority Signals.priority >>= fun priority =>
      call .deviceUuids Signals.deviceUuids >>= fun devices =>
      call .recentKernel Signals.recentKernel >>= fun recent =>
      if 0 < recent then
        write .setRecentKernel (recent - 1) (Signals.setRecentKernel (recent - 1)) >>= fun _ =>
          pure ⟨tierOf priority, devices, 0 < recent - 1⟩
      else pure ⟨tierOf priority, devices, false⟩ : Access (Faulty σ) Observation) carrier := rfl

-- The calls of the first pass are of four methods, so none of them counts for another.
theorem age_failsCleanly (reliable : Reliable carrier.inner) :
    carrier.FailsCleanly carrier.failsFirst (age carrier) := by
  rw [age_eq, failsFirst, Bool.or_assoc, Bool.or_assoc]
  refine .bind rfl priority reliable fun first kept shown => ?_
  refine .bind (failsNext_called (by decide) first) deviceUuids kept fun second kept shownToo => ?_
  refine .bind ((failsNext_called (by decide) second).trans (failsNext_called (by decide) first))
    recentKernel kept fun third kept shownStill => ?_
  have same : (view carrier.inner).recentKernel = (view second).recentKernel := by
    rw [shownToo]
    exact congrArg Plain.recentKernel shown.symm
  rw [same]
  change FailsCleanly _ _ ((if 0 < (view second).recentKernel then _ else _ : Access _ _) _)
  split
  · next positive =>
    rw [decide_eq_true positive, Bool.true_and]
    refine write_failsCleanly ?_ (setRecentKernel _) kept _ _
    rw [failsNext_called (by decide), failsNext_called (by decide), failsNext_called (by decide)]
  · next idle =>
    rw [decide_eq_false idle, Bool.false_and]
    exact .passed

theorem isObserved_eq (reliable : Reliable carrier.inner) :
    isObserved carrier = !carrier.failsFirst := (age_failsCleanly reliable).isOk_eq

theorem age_of_failsFirst (reliable : Reliable carrier.inner) (fails : carrier.failsFirst = true) :
    carrier.IsUntouched (age carrier).2 := by
  have cleanly := age_failsCleanly reliable
  rw [fails] at cleanly
  exact cleanly.untouched

end Faulty

section Ticks

variable {σ : Type} [Signals σ] [Faithful σ] {containers : List (Faulty σ)}

def passing (containers : List (Faulty σ)) : List (Faulty σ) :=
  containers.filter fun container => !container.failsFirst

def passingBefore (containers : List (Faulty σ)) (index : Nat) : Nat :=
  (passing (containers.take index)).length

theorem passing_eq (reliable : ∀ container ∈ containers, Reliable container.inner) :
    passing containers = containers.filter isObserved := by
  apply List.filter_congr
  intro container member
  exact (Faulty.isObserved_eq (reliable container member)).symm

theorem passingBefore_eq (reliable : ∀ container ∈ containers, Reliable container.inner) (index : Nat) :
    passingBefore containers index = rank containers index := by
  have before : ∀ container ∈ containers.take index, Reliable container.inner :=
    fun container member => reliable container (List.mem_of_mem_take member)
  rw [passingBefore, passing_eq before, rank, List.countP_eq_length_filter]

/-- A tick over containers of which any calls fail. Every container is counted once. One that fails in the
first pass is left untouched and has no part in the activity. Any other ends as it does in a tick over those
that do not fail in the first pass, and as it does in any tick whose first pass learns the same, whatever
fails there in the second pass of the others. -/
theorem tick_isolates (reliable : ∀ container ∈ containers, Reliable container.inner) :
    (tick containers).1.observed + (tick containers).1.skipped = containers.length ∧
    (tick containers).1.activity = (tick (passing containers)).1.activity ∧
    ∀ (index : Nat) (container : Faulty σ), containers[index]? = some container →
      (container.failsFirst = true → (tick containers).1.changesAt index = [] ∧
        ∃ left, (tick containers).2[index]? = some left ∧ container.IsUntouched left) ∧
      (container.failsFirst = false →
        (passing containers)[passingBefore containers index]? = some container ∧
        EndsAlike containers index (passing containers) (passingBefore containers index) ∧
        ∀ (others : List (Faulty σ)) (place : Nat),
          observations others = observations (passing containers) →
          others[place]? = some container → EndsAlike containers index others place) := by
  rw [passing_eq reliable]
  refine ⟨tick_counts containers, (activity_filter_isObserved containers).symm, ?_⟩
  intro index container held
  have inside := reliable container (List.mem_of_getElem? held)
  have observed := Faulty.isObserved_eq inside
  rw [passingBefore_eq reliable]
  constructor
  · intro fails
    rw [fails] at observed
    obtain ⟨left, unchanged⟩ := tick_of_not_observed held observed
    exact ⟨unchanged, _, left, Faulty.age_of_failsFirst inside fails⟩
  · intro passes
    rw [passes] at observed
    refine ⟨getElem?_filter_isObserved held observed, endsAlike_filter_isObserved held observed, ?_⟩
    intro others place same also
    refine endsAlike_of_activity ?_ held also
    rw [same, activityOf_filter_isObserved]

/-- The counter of the first container cannot be written. The second blocks the third, though its counter
cannot be read a second time. -/
def stumbling : List (Faulty Plain) :=
  [⟨⟨0, ["a"], 5, 0⟩, fun method _ => method == .setRecentKernel, [], []⟩,
    ⟨⟨1, ["a"], 4, 0⟩, fun method number => method == .recentKernel && number == 2, [], []⟩,
    ⟨⟨2, ["a"], 3, 0⟩, fun _ _ => false, [], []⟩]

theorem tick_isolates_stumbling :
    (∀ container ∈ stumbling, Reliable container.inner) ∧
    (tick stumbling).1.observed + (tick stumbling).1.skipped = 3 ∧
    (∃ left, (tick stumbling).2[0]? = some left ∧ left.writes = []) ∧
    EndsAlike stumbling 2 (stumbling.drop 1) 1 ∧
    (tick stumbling).1.changesAt 2 = [.blocked, .contentionOn] := by
  have reliable : ∀ container ∈ stumbling, Reliable container.inner := fun _ _ => trivial
  obtain ⟨counts, -, each⟩ := tick_isolates reliable
  obtain ⟨-, left, is, untouched⟩ := (each 0 _ rfl).1 (by decide)
  obtain ⟨-, alike, -⟩ := (each 2 _ rfl).2 (by decide)
  exact ⟨reliable, counts, ⟨left, is, untouched.writes⟩, alike, by decide⟩

end Ticks

end GpuShare.Feedback
