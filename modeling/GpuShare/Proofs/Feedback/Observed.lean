import Mathlib.Data.List.Count
import Mathlib.Data.List.Forall2
import GpuShare.Proofs.Lists
import GpuShare.Proofs.Feedback.Faithful

/-!
Containers that fail in the first pass. A tick gives every other container what a tick over these alone would
give it: what becomes of a container depends on the container and on the activity, and a container that fails
in the first pass is in neither.
-/

set_option autoImplicit false

namespace GpuShare.Feedback

variable {σ : Type} [Signals σ] {containers others : List σ} {container : σ} {index place : Nat}

def TickReport.changesAt (report : TickReport) (index : Nat) : List Change :=
  report.changes.filterMap fun change => if change.1 = index then some change.2 else none

def isObserved (container : σ) : Bool := (age container).1.isOk

def rank (containers : List σ) (index : Nat) : Nat := (containers.take index).countP isObserved

/-- A container ends in one tick as a container ends, at another place, in another tick. -/
def EndsAlike (containers : List σ) (index : Nat) (others : List σ) (place : Nat) : Prop :=
  (tick containers).2[index]? = (tick others).2[place]? ∧
    (tick containers).1.changesAt index = (tick others).1.changesAt place

def observations (containers : List σ) : List (Except StorageFailure Observation) :=
  containers.map fun container => (age container).1

def finish (activity : Activity) (container : σ) : Except StorageFailure (List Change) × σ :=
  settle activity (age container).1 (age container).2

theorem getElem?_filter_isObserved (held : containers[index]? = some container)
    (observed : isObserved container = true) :
    (containers.filter isObserved)[rank containers index]? = some container := by
  induction containers generalizing index with
  | nil => cases held
  | cons first rest ih =>
    cases index with
    | zero =>
      obtain rfl := Option.some.inj held
      simp [rank, observed]
    | succ index =>
      have held : rest[index]? = some container := held
      have later := ih held
      unfold rank at later ⊢
      rw [List.take_succ_cons, List.countP_cons, List.filter_cons]
      split
      · simpa using later
      · exact later

theorem activity_tick (containers : List σ) :
    (tick containers).1.activity = activityOf (observations containers) := by
  simp only [tick, reportOf, firstPass, observations, List.map_map]
  rfl

theorem tick_eq (containers : List σ) :
    tick containers =
      (reportOf (activityOf (observations containers))
        (containers.map fun container => (finish (activityOf (observations containers)) container).1),
      containers.map fun container => (finish (activityOf (observations containers)) container).2) := by
  simp only [tick, firstPass, secondPass, observations, List.map_map]
  rfl

-- A container that fails in the first pass has no part in the activity.
theorem activityOf_filter_isObserved (containers : List σ) :
    activityOf (observations (containers.filter isObserved)) = activityOf (observations containers) := by
  simp only [activityOf, observations, List.foldl_map, List.foldl_filter]
  congr 1
  funext activity container
  cases outcome : (age container).1 with
  | ok observation =>
    have observed : isObserved container = true := by
      rw [isObserved, outcome]
      rfl
    rw [if_pos observed]
  | error failure =>
    have skipped : isObserved container = false := by
      rw [isObserved, outcome]
      rfl
    rw [skipped, if_neg Bool.false_ne_true]

theorem finish_of_not_observed (activity : Activity) (skipped : isObserved container = false) :
    ∃ failure, finish activity container = (.error failure, (age container).2) := by
  unfold isObserved at skipped
  unfold finish
  cases outcome : (age container).1 with
  | ok observation =>
    rw [outcome] at skipped
    cases skipped
  | error failure => exact ⟨failure, rfl⟩

def changesOf : Except StorageFailure (List Change) → List Change
  | .ok changes => changes
  | .error _ => []

section Reports

variable {activity : Activity} {outcomes : List (Except StorageFailure (List Change))}

theorem changes_reportOf : (reportOf activity outcomes).changes =
    outcomes.zipIdx.flatMap fun entry => (changesOf entry.1).map fun change => (entry.2, change) := by
  unfold reportOf
  dsimp only
  congr 1
  funext entry
  obtain ⟨outcome, index⟩ := entry
  cases outcome <;> rfl

theorem changesAt_reportOf (index : Nat) :
    (reportOf activity outcomes).changesAt index = (outcomes[index]?.map changesOf).getD [] := by
  rw [TickReport.changesAt, changes_reportOf, List.filterMap_flatMap]
  rw [← flatMap_zipIdx_eq changesOf outcomes 0 index, Nat.zero_add]
  congr 1
  funext entry
  rw [List.filterMap_map]
  split
  · next here => simp [here]
  · next elsewhere => simp [elsewhere]

theorem observed_add_skipped :
    (reportOf activity outcomes).observed + (reportOf activity outcomes).skipped = outcomes.length := by
  rw [List.length_eq_countP_add_countP fun | .ok _ => true | .error _ => false]
  unfold reportOf
  dsimp only
  congr 2
  funext outcome
  cases outcome <;> rfl

end Reports

section Ticks

-- What becomes of a container depends on the activity and on nothing else of the others.
theorem endsAlike_of_activity
    (same : activityOf (observations containers) = activityOf (observations others))
    (held : containers[index]? = some container) (also : others[place]? = some container) :
    EndsAlike containers index others place := by
  rw [EndsAlike, tick_eq, tick_eq, same]
  simp only [changesAt_reportOf, List.getElem?_map, held, also, and_self]

theorem endsAlike_filter_isObserved (held : containers[index]? = some container)
    (observed : isObserved container = true) :
    EndsAlike containers index (containers.filter isObserved) (rank containers index) :=
  endsAlike_of_activity (activityOf_filter_isObserved containers).symm held
    (getElem?_filter_isObserved held observed)

theorem tick_of_not_observed (held : containers[index]? = some container)
    (skipped : isObserved container = false) :
    (tick containers).2[index]? = some (age container).2 ∧
      (tick containers).1.changesAt index = [] := by
  obtain ⟨failure, finished⟩ :=
    finish_of_not_observed (activityOf (observations containers)) skipped
  rw [tick_eq]
  simp [changesAt_reportOf, held, finished, changesOf]

theorem activity_filter_isObserved (containers : List σ) :
    (tick (containers.filter isObserved)).1.activity = (tick containers).1.activity := by
  rw [activity_tick, activity_tick, activityOf_filter_isObserved]

/-- The changes of a tick are those of a tick over the containers that go through the first pass. -/
theorem changes_filter_isObserved (containers : List σ) :
    List.Forall₂ (fun change shown =>
        (containers.findIdxs isObserved)[shown.1]? = some change.1 ∧ change.2 = shown.2)
      (tick containers).1.changes (tick (containers.filter isObserved)).1.changes := by
  rw [tick_eq, tick_eq, activityOf_filter_isObserved]
  dsimp only
  generalize activityOf (observations containers) = activity
  rw [changes_reportOf, changes_reportOf, List.zipIdx_map, List.flatMap_map, List.zipIdx_map, List.flatMap_map]
  rw [← filter_zipIdx_fst isObserved containers 0, ← filter_zipIdx_snd isObserved containers 0]
  rw [← flatMap_filter_of_nil fun entry : σ × Nat => isObserved entry.1]
  · exact forall₂_renumber (fun container => changesOf (finish activity container).1) _
  · intro entry _ skipped
    obtain ⟨failure, finished⟩ := finish_of_not_observed activity skipped
    simp [finished, changesOf]

-- A container that fails in the first pass is not counted as observed.
theorem observed_filter_isObserved (containers : List σ) :
    (tick (containers.filter isObserved)).1.observed = (tick containers).1.observed := by
  rw [tick_eq, tick_eq, activityOf_filter_isObserved]
  unfold reportOf
  dsimp only
  rw [List.countP_map, List.countP_map, List.countP_filter]
  apply List.countP_congr
  intro container _
  cases observed : isObserved container with
  | true => simp
  | false =>
    obtain ⟨failure, finished⟩ :=
      finish_of_not_observed (activityOf (observations containers)) observed
    simp [finished]

theorem tick_counts (containers : List σ) :
    (tick containers).1.observed + (tick containers).1.skipped = containers.length := by
  rw [tick_eq, observed_add_skipped, List.length_map]

end Ticks

end GpuShare.Feedback
