import GpuShare.Proofs.Feedback.Tick
import GpuShare.Proofs.Feedback.Observed
import GpuShare.Proofs.Region.Signals

/-!
Ticks over regions. A tick changes the bytes of the two signals and no others, and it does to the regions
whose header is valid what it does to the records that are read from them, whatever another program writes
between the ticks.
-/

set_option autoImplicit false

namespace GpuShare.Feedback

open Region

variable {α β : Type} {region : Region} {regions others : List Region}

/-! ## One access -/

theorem priority_region (region : Region) :
    (Signals.priority : Access Region Int32) region = (.ok region.priority, region) := rfl

theorem deviceUuids_of_valid (valid : region.HasValidHeader) :
    (Signals.deviceUuids : Access Region (List String)) region = (.ok region.deviceUuids, region) := by
  have got : (get : Access Region Region) region = (.ok region, region) := rfl
  simp only [Signals.deviceUuids]
  rw [access_bind, got]
  simp only [validate_of_valid valid]
  rfl

theorem deviceUuids_of_not_valid (broken : ¬region.HasValidHeader) :
    ∃ failure, (Signals.deviceUuids : Access Region (List String)) region = (.error failure, region) := by
  have got : (get : Access Region Region) region = (.ok region, region) := rfl
  obtain ⟨reason, refused⟩ := validate_of_not_valid broken
  simp only [Signals.deviceUuids]
  rw [access_bind, got]
  simp only [refused]
  exact ⟨_, rfl⟩

/-- A region is reliable as long as its header is valid. -/
instance : Faithful Region where
  view := Region.record
  Reliable := HasValidHeader
  priority _ valid := ⟨rfl, rfl, valid⟩
  deviceUuids region valid := by
    rw [deviceUuids_of_valid valid]
    exact ⟨rfl, rfl, valid⟩
  recentKernel _ valid := ⟨rfl, rfl, valid⟩
  setRecentKernel value region valid :=
    ⟨rfl, record_setRecentKernel region value,
      (SameBesidesSignals.setRecentKernel region value).hasValidHeader.1 valid⟩
  utilizationSwitch _ valid := ⟨rfl, rfl, valid⟩
  setUtilizationSwitch value region valid :=
    ⟨rfl, record_setUtilizationSwitch region value,
      (SameBesidesSignals.setUtilizationSwitch region value).hasValidHeader.1 valid⟩

-- The devices are read before anything is written.
theorem age_of_not_valid (broken : ¬region.HasValidHeader) :
    ∃ failure, age region = (.error failure, region) := by
  obtain ⟨failure, refused⟩ := deviceUuids_of_not_valid broken
  unfold age
  rw [access_bind, priority_region]
  dsimp only
  rw [access_bind, refused]
  exact ⟨failure, rfl⟩

theorem isObserved_region (region : Region) : isObserved region = decide region.HasValidHeader := by
  unfold isObserved
  by_cases valid : region.HasValidHeader
  · have passes := (Faithful.mirrors_age region valid).1
    rw [passes, age_plain, decide_eq_true valid]
    rfl
  · obtain ⟨failure, failed⟩ := age_of_not_valid valid
    rw [failed, decide_eq_false valid]
    rfl

/-! ## The bytes -/

def Keeps (access : Access Region α) : Prop :=
  ∀ region : Region, region.SameBesidesSignals (access region).2

namespace Keeps

theorem pure (a : α) : Keeps (Pure.pure a) := SameBesidesSignals.refl

theorem failure (error : StorageFailure) : Keeps (throw error : Access Region α) := SameBesidesSignals.refl

theorem bind {access : Access Region α} {next : α → Access Region β} (first : Keeps access)
    (rest : ∀ a, Keeps (next a)) : Keeps (access >>= next) := by
  intro region
  have start := first region
  rw [access_bind]
  generalize access region = outcome at start ⊢
  obtain ⟨answer, middle⟩ := outcome
  cases answer with
  | ok a => exact start.trans (rest a middle)
  | error failure => exact start

theorem ite {p : Prop} [Decidable p] {access other : Access Region α} (yes : Keeps access)
    (no : Keeps other) : Keeps (if p then access else other) := by
  split
  · exact yes
  · exact no

theorem deviceUuids : Keeps (Signals.deviceUuids : Access Region (List String)) := by
  intro region
  by_cases valid : region.HasValidHeader
  · rw [deviceUuids_of_valid valid]
    exact .refl region
  · obtain ⟨failure, refused⟩ := deviceUuids_of_not_valid valid
    rw [refused]
    exact .refl region

theorem recentKernel : Keeps (Signals.recentKernel : Access Region Int32) := SameBesidesSignals.refl

theorem setRecentKernel (value : Int32) : Keeps (Signals.setRecentKernel value : Access Region Unit) :=
  fun region => .setRecentKernel region value

theorem setUtilizationSwitch (value : Int32) :
    Keeps (Signals.setUtilizationSwitch value : Access Region Unit) :=
  fun region => .setUtilizationSwitch region value

theorem age : Keeps (age : Access Region Observation) := by
  refine bind SameBesidesSignals.refl fun _ => bind deviceUuids fun _ => bind recentKernel fun _ => ?_
  exact ite (bind (setRecentKernel _) fun _ => pure _) (pure _)

theorem applyBlock (blocked : Bool) : Keeps (applyBlock blocked : Access Region (List Change)) := by
  refine bind recentKernel fun _ => ?_
  exact ite (bind (setRecentKernel _) fun _ => pure _)
    (ite (bind (setRecentKernel _) fun _ => pure _) (pure _))

theorem applyContention (contended : Bool) :
    Keeps (applyContention contended : Access Region (List Change)) := by
  refine bind SameBesidesSignals.refl fun _ => ?_
  exact ite (bind (setUtilizationSwitch _) fun _ => pure _) (pure _)

theorem settle (activity : Activity) (observed : Except StorageFailure Observation) :
    Keeps (settle activity observed : Access Region (List Change)) := by
  cases observed with
  | ok observation =>
    exact bind (applyBlock _) fun _ => bind (applyContention _) fun _ => pure _
  | error error => exact failure error

theorem finish (activity : Activity) (region : Region) :
    region.SameBesidesSignals (Feedback.finish activity region).2 :=
  (age region).trans (settle activity _ _)

end Keeps

/-! ## One tick -/

def records (regions : List Region) : List Plain :=
  (regions.filter fun region => region.HasValidHeader).map Region.record

/-- What a tick over regions is for the records that are read from them. -/
structure TickRefines (before : List Region) : Prop where
  -- A tick changes nothing but the signals, and nothing at all where the header is broken.
  regions : List.Forall₂
    (fun region left => region.SameBesidesSignals left ∧ (¬region.HasValidHeader → left = region))
    before (tick before).2
  skipped : (tick before).1.skipped = before.countP fun region => ¬region.HasValidHeader
  observed : (tick before).1.observed = before.countP fun region => region.HasValidHeader
  -- The devices of a record are what the slots hold that are not empty.
  devices : ∀ region ∈ before, List.Forall₂ region.HoldsUuid region.occupiedSlots region.record.devices
  activity : (tick before).1.activity = (tick (records before)).1.activity
  -- The changes are those of the records; each is at the place of its record among the regions.
  changes : List.Forall₂
    (fun change shown => (before.findIdxs fun region => region.HasValidHeader)[shown.1]? = some change.1 ∧
      change.2 = shown.2)
    (tick before).1.changes (tick (records before)).1.changes
  records : records (tick before).2 = (tick (records before)).2

theorem filter_isObserved (regions : List Region) :
    regions.filter isObserved = regions.filter fun region => region.HasValidHeader :=
  List.filter_congr fun region _ => isObserved_region region

theorem tick_regions (regions : List Region) :
    List.Forall₂
      (fun region left => region.SameBesidesSignals left ∧ (¬region.HasValidHeader → left = region))
      regions (tick regions).2 := by
  rw [tick_eq, List.forall₂_map_right_iff, List.forall₂_same]
  intro region _
  constructor
  · exact Keeps.finish _ region
  · intro broken
    have skipped : isObserved region = false := by rw [isObserved_region, decide_eq_false broken]
    obtain ⟨_, finished⟩ := finish_of_not_observed (activityOf (observations regions)) skipped
    obtain ⟨_, failed⟩ := age_of_not_valid broken
    rw [finished, failed]

-- A region keeps its header, so the regions with a valid one are the same before and after a tick.
theorem filter_tick (regions : List Region) :
    (tick regions).2.filter (fun region => region.HasValidHeader) =
      (tick (regions.filter isObserved)).2 := by
  rw [tick_eq, tick_eq, activityOf_filter_isObserved]
  generalize activityOf (observations regions) = activity
  dsimp only
  have same : ∀ region ∈ regions,
      ((fun region => decide region.HasValidHeader) ∘ fun region => (finish activity region).2) region =
        decide region.HasValidHeader := by
    intro region _
    rw [Function.comp_apply, decide_eq_decide]
    exact (Keeps.finish activity region).hasValidHeader.symm
  rw [filter_isObserved, List.filter_map, List.filter_congr same]

theorem tick_refines (regions : List Region) : TickRefines regions := by
  have valid : ∀ region ∈ regions.filter isObserved, Faithful.Reliable region := by
    intro region member
    rw [filter_isObserved] at member
    have valid : region.HasValidHeader := of_decide_eq_true (List.mem_filter.1 member).2
    exact valid
  have shown : (regions.filter isObserved).map Faithful.view = records regions := by
    rw [filter_isObserved]
    rfl
  obtain ⟨report, left⟩ := Faithful.tick_view valid
  rw [shown] at report left
  have places : regions.findIdxs isObserved = regions.findIdxs fun region => region.HasValidHeader :=
    congrArg (fun p => regions.findIdxs p) (funext isObserved_region)
  have observed : (tick regions).1.observed = regions.countP fun region => region.HasValidHeader := by
    have all := (tick_plain (records regions)).observed
    rw [← observed_filter_isObserved, report, all, records, List.length_map, List.countP_eq_length_filter]
  have changes := changes_filter_isObserved regions
  constructor
  · exact tick_regions regions
  · have counts := tick_counts regions
    have parts := List.length_eq_countP_add_countP (fun region : Region => decide region.HasValidHeader)
      (l := regions)
    simp only [decide_not]
    simp only [Bool.not_eq_true, Bool.decide_eq_false] at parts
    omega
  · exact observed
  · exact fun region _ => holdsUuid_deviceUuids region
  · rw [← report, activity_filter_isObserved]
  · rw [← report, ← places]
    exact changes
  · rw [← left, records, filter_tick]
    rfl

/-! ## Many ticks -/

inductive Event where
  | tick
  | overwrite (index start : Nat) (written : List UInt8)
  deriving Repr, DecidableEq

def Event.isTick : Event → Bool
  | tick => true
  | overwrite .. => false

def Event.apply (regions : List Region) : Event → List Region
  | tick => (Feedback.tick regions).2
  | overwrite index start written => regions.modify index fun region => region.put start written

def reached (regions : List Region) (events : List Event) : List Region :=
  events.foldl Event.apply regions

def AreSameBesidesSignals : List Region → List Region → Prop := List.Forall₂ SameBesidesSignals

namespace AreSameBesidesSignals

theorem tick (same : AreSameBesidesSignals regions others) :
    AreSameBesidesSignals regions (Event.tick.apply others) := by
  have frame := tick_regions others
  unfold AreSameBesidesSignals at same ⊢
  change List.Forall₂ _ regions (Feedback.tick others).2
  generalize (Feedback.tick others).2 = left at frame ⊢
  induction same generalizing left with
  | nil =>
    cases frame
    exact .nil
  | cons first _ ih =>
    cases frame with
    | cons next later => exact .cons (first.trans next.1) (ih _ later)

theorem overwrite (same : AreSameBesidesSignals regions others) (index start : Nat)
    (written : List UInt8) :
    AreSameBesidesSignals ((Event.overwrite index start written).apply regions)
      ((Event.overwrite index start written).apply others) := by
  unfold AreSameBesidesSignals at same ⊢
  unfold Event.apply
  induction same generalizing index with
  | nil => simp
  | cons first rest ih =>
    cases index with
    | zero => exact .cons (first.put start written) rest
    | succ index => exact .cons first (ih index)

-- Only the writes of others reach the bytes outside the signals.
theorem reached (same : AreSameBesidesSignals regions others) (events : List Event) :
    AreSameBesidesSignals (Feedback.reached regions (events.filter fun event => !event.isTick))
      (Feedback.reached others events) := by
  induction events generalizing regions others with
  | nil => exact same
  | cons event rest ih =>
    cases event with
    | tick => exact ih same.tick
    | overwrite index start written => exact ih (same.overwrite index start written)

end AreSameBesidesSignals

/-- Ticks over any regions, with any writes of other programs in between. Each tick changes only bytes of the
two signals, leaves a region with a broken header as it is and counts it as skipped, and does to the others
what it does to their records. What the run leaves outside the signals is what the writes alone leave. -/
theorem run_refines (regions : List Region) (events : List Event) :
    (∀ count, TickRefines (reached regions (events.take count))) ∧
      AreSameBesidesSignals (reached regions (events.filter fun event => !event.isTick))
        (reached regions events) := by
  constructor
  · intro count
    exact tick_refines _
  · apply AreSameBesidesSignals.reached
    exact List.forall₂_same.2 fun region _ => .refl region

end GpuShare.Feedback
