import Mathlib.Data.List.Count
import Mathlib.Data.List.Flatten
import GpuShare.Proofs.Feedback.Activity
import GpuShare.Proofs.Feedback.Faithful

/-! What a tick does, said without its passes: which containers block which, who contends for a device,
and what every container has afterwards. A tick sees the others through counters of 32 bits, which show all
there is as long as none of them runs over.
-/

set_option autoImplicit false

namespace GpuShare.Feedback

namespace Plain

/-- Lower is more urgent; negative priorities are as urgent as zero. -/
def tier (container : Plain) : Int := max container.priority.toInt 0

def aged (container : Plain) : Int32 :=
  if 0 < container.recentKernel then container.recentKernel - 1 else container.recentKernel

def IsActive (container : Plain) : Prop := 1 < container.recentKernel

instance (container : Plain) : Decidable container.IsActive :=
  inferInstanceAs (Decidable (1 < container.recentKernel))

/-- A container blocks the less urgent ones on its devices while it is active. -/
def Blocks (other container : Plain) : Prop :=
  other.IsActive ∧ other.tier < container.tier ∧ ∃ uuid ∈ other.devices, uuid ∈ container.devices

instance (other container : Plain) : Decidable (other.Blocks container) :=
  inferInstanceAs (Decidable (_ ∧ _ ∧ ∃ uuid ∈ other.devices, uuid ∈ container.devices))

/-- How often the active containers of a tier list a device. -/
def load (all : List Plain) (tier : Int) (uuid : String) : Nat :=
  ((all.filter fun container => container.IsActive ∧ container.tier = tier).flatMap (·.devices)).count
    uuid

theorem load_cons (container : Plain) (all : List Plain) (tier : Int) (uuid : String) :
    load (container :: all) tier uuid =
      (if container.IsActive ∧ container.tier = tier then container.devices.count uuid else 0) +
        load all tier uuid := by
  by_cases counted : container.IsActive ∧ container.tier = tier <;> simp [load, counted]

def IsBlocked (all : List Plain) (container : Plain) : Prop := ∃ other ∈ all, other.Blocks container

instance (all : List Plain) (container : Plain) : Decidable (container.IsBlocked all) :=
  inferInstanceAs (Decidable (∃ other ∈ all, other.Blocks container))

def IsContended (all : List Plain) (container : Plain) : Prop :=
  container.IsBlocked all ∨ ∃ uuid ∈ container.devices, 1 < load all container.tier uuid

instance (all : List Plain) (container : Plain) : Decidable (container.IsContended all) :=
  inferInstanceAs (Decidable (_ ∨ ∃ uuid ∈ container.devices, 1 < load all container.tier uuid))

/-- What a counter of 32 bits shows of how often a device is listed. -/
def shown (all : List Plain) (tier : Int) (uuid : String) : Nat := load all tier uuid % UInt32.size

def FitCounters (all : List Plain) : Prop := ∀ tier uuid, load all tier uuid < UInt32.size

def SeesBlock (all : List Plain) (container : Plain) : Prop :=
  ∃ uuid ∈ container.devices, ∃ tier < tierOf container.priority, 0 < shown all tier uuid

instance (all : List Plain) (container : Plain) : Decidable (container.SeesBlock all) :=
  inferInstanceAs (Decidable (∃ uuid ∈ container.devices, ∃ tier < tierOf _, 0 < shown all tier uuid))

def SeesContention (all : List Plain) (container : Plain) : Prop :=
  container.SeesBlock all ∨ ∃ uuid ∈ container.devices, 1 < shown all container.tier uuid

instance (all : List Plain) (container : Plain) : Decidable (container.SeesContention all) :=
  inferInstanceAs (Decidable (_ ∨ ∃ uuid ∈ container.devices, 1 < shown all container.tier uuid))

def settledCounter (blocked : Bool) (container : Plain) : Int32 :=
  if blocked then if 0 ≤ container.aged then -1 else container.aged
  else if container.aged < 0 then 0 else container.aged

def settledSwitch (contended : Bool) : Int32 := if contended then 1 else 0

def settled (blocked contended : Bool) (container : Plain) : Plain :=
  { container with
    recentKernel := container.settledCounter blocked
    utilizationSwitch := settledSwitch contended }

end Plain

/-- A counter that becomes negative is a block, and one that ceases to be is the end of it. -/
def Change.ofCounter (before after : Int32) : List Change :=
  if 0 ≤ before ∧ after < 0 then [.blocked]
  else if before < 0 ∧ 0 ≤ after then [.unblocked]
  else []

def Change.ofSwitch (before after : Int32) : List Change :=
  if before = after then [] else if after = 1 then [.contentionOn] else [.contentionOff]

def Plain.changes (blocked contended : Bool) (container : Plain) : List Change :=
  Change.ofCounter container.aged (container.settledCounter blocked) ++
    Change.ofSwitch container.utilizationSwitch (settledSwitch contended)

/-- A tick over containers of which these are blocked and these in contention. -/
structure Settles (blocked contended : Plain → Bool) (all : List Plain) (report : TickReport)
    (after : List Plain) : Prop where
  ends : after = all.map fun container => container.settled (blocked container) (contended container)
  -- By position of the container, and its counter before its switch.
  changes : report.changes =
    (all.map fun container => container.changes (blocked container) (contended container)).zipIdx.flatMap
      fun entry => entry.1.map fun change => (entry.2, change)
  observed : report.observed = all.length
  skipped : report.skipped = 0

/-! ## First pass -/

theorem tierOf_eq (container : Plain) : (tierOf container.priority : Int) = container.tier := by
  simp only [tierOf, Plain.tier]
  omega

def Plain.observation (container : Plain) : Observation :=
  ⟨tierOf container.priority, container.devices, decide container.IsActive⟩

theorem age_plain (container : Plain) :
    age container =
      (.ok container.observation, { container with recentKernel := container.aged }) := by
  have opened : age container = (if 0 < container.recentKernel then (do
      Signals.setRecentKernel (container.recentKernel - 1)
      return ⟨tierOf container.priority, container.devices, 0 < container.recentKernel - 1⟩)
    else return ⟨tierOf container.priority, container.devices, false⟩ : Access Plain Observation)
      container := rfl
  rw [opened]
  split
  · next positive =>
    have still : 0 < container.recentKernel - 1 ↔ 1 < container.recentKernel := by grind
    simp only [Plain.observation, Plain.IsActive, Plain.aged, positive, still, if_true]
    rfl
  · next idle =>
    have notActive : ¬1 < container.recentKernel := by grind
    simp only [Plain.observation, Plain.IsActive, Plain.aged, idle, notActive, if_false]
    rfl

theorem firstPass_plain (all : List Plain) :
    firstPass all = all.map fun container =>
      (.ok container.observation, { container with recentKernel := container.aged }) := by
  induction all with
  | nil => rfl
  | cons container rest ih => rw [firstPass_cons, List.map_cons, age_plain, ih]

def activityAmong (all : List Plain) : Activity := activityOf ((firstPass all).map (·.1))

theorem tallies_activityAmong (all : List Plain) :
    (activityAmong all).Tallies (all.flatMap fun container => container.observation.records) := by
  have tallies := tallies_activityOf ((firstPass all).map (·.1))
  rw [firstPass_plain, List.map_map, List.flatMap_map] at tallies
  rwa [activityAmong, firstPass_plain, List.map_map]

theorem count_records (container : Plain) (uuid : String) (tier : Nat) :
    container.observation.records.count (uuid, tier) =
      if container.IsActive ∧ container.tier = tier then container.devices.count uuid else 0 := by
  simp only [← tierOf_eq, Int.natCast_inj]
  by_cases active : container.IsActive
  · simp only [Plain.observation, Observation.records, active, decide_true, if_true, true_and]
    split
    · next same =>
      rw [← same]
      exact List.count_map_of_injective _ _ (fun _ _ equal => (Prod.mk.inj equal).1) uuid
    · next other =>
      refine List.count_eq_zero.2 fun member => ?_
      obtain ⟨_, -, equal⟩ := List.mem_map.1 member
      exact other (Prod.mk.inj equal).2
  · simp [Plain.observation, Observation.records, active]

/-! ## Second pass -/

theorem count_activityAmong (all : List Plain) (uuid : String) (tier : Nat) :
    (activityAmong all).count uuid tier = Plain.shown all tier uuid := by
  rw [(tallies_activityAmong all).count, Plain.shown]
  congr 1
  induction all with
  | nil => rfl
  | cons container rest ih =>
    rw [List.flatMap_cons, List.count_append, ih, count_records, Plain.load_cons]

theorem isBlocked_eq (all : List Plain) (container : Plain) :
    container.observation.isBlocked (activityAmong all) = decide (container.SeesBlock all) := by
  rw [Bool.eq_iff_iff, decide_eq_true_iff]
  simp only [Observation.isBlocked, Plain.observation, List.any_eq_true,
    Activity.higherTierActive_eq_true_iff, count_activityAmong, Plain.SeesBlock]

theorem isContended_eq (all : List Plain) (container : Plain) :
    container.observation.isContended (activityAmong all) = decide (container.SeesContention all) := by
  rw [Bool.eq_iff_iff, decide_eq_true_iff, Observation.isContended, isBlocked_eq]
  simp only [Bool.or_eq_true, decide_eq_true_eq, List.any_eq_true, Plain.observation,
    count_activityAmong, tierOf_eq, Plain.SeesContention]

theorem applyBlock_plain (blocked : Bool) (container : Plain) :
    applyBlock blocked container =
      let after := if blocked then if 0 ≤ container.recentKernel then -1 else container.recentKernel
        else if container.recentKernel < 0 then 0 else container.recentKernel
      (.ok (Change.ofCounter container.recentKernel after),
        { container with recentKernel := after }) := by
  have opened : applyBlock blocked container =
      (if blocked && 0 ≤ container.recentKernel then (do
        Signals.setRecentKernel blockedCounter
        return [.blocked])
      else if !blocked && container.recentKernel < 0 then (do
        Signals.setRecentKernel 0
        return [.unblocked])
      else return [] : Access Plain (List Change)) container := rfl
  have signs : ¬(0 ≤ container.recentKernel ∧ container.recentKernel < 0) := by grind
  rw [opened]
  cases blocked with
  | true =>
    by_cases free : 0 ≤ container.recentKernel
    · have block : Change.ofCounter container.recentKernel (-1) = [.blocked] :=
        if_pos ⟨free, by decide⟩
      simp only [free, Bool.true_and, decide_true, if_true, block]
      rfl
    · have still : Change.ofCounter container.recentKernel container.recentKernel = [] := by
        simp [Change.ofCounter, free]
      simp only [free, Bool.true_and, decide_false, Bool.false_eq_true, Bool.not_true,
        Bool.false_and, if_true, if_false, still]
      rfl
  | false =>
    by_cases stopped : container.recentKernel < 0
    · have unblock : Change.ofCounter container.recentKernel 0 = [.unblocked] := by
        have negative : ¬0 ≤ container.recentKernel := fun free => signs ⟨free, stopped⟩
        simp [Change.ofCounter, negative, stopped]
      simp only [stopped, Bool.false_and, Bool.not_false, Bool.true_and, decide_true, if_true,
        Bool.false_eq_true, if_false, unblock]
      rfl
    · have still : Change.ofCounter container.recentKernel container.recentKernel = [] := by
        simp [Change.ofCounter, stopped]
      simp only [stopped, Bool.false_and, Bool.not_false, Bool.true_and, decide_false,
        Bool.false_eq_true, if_false, still]
      rfl

theorem applyContention_plain (contended : Bool) (container : Plain) :
    applyContention contended container =
      let after := if contended then 1 else 0
      (.ok (Change.ofSwitch container.utilizationSwitch after),
        { container with utilizationSwitch := after }) := by
  have opened : applyContention contended container =
      (if container.utilizationSwitch != (if contended then 1 else 0) then (do
        Signals.setUtilizationSwitch (if contended then 1 else 0)
        return [if contended then .contentionOn else .contentionOff])
      else return [] : Access Plain (List Change)) container := rfl
  rw [opened]
  by_cases same : container.utilizationSwitch = if contended then 1 else 0
  · have kept : { container with utilizationSwitch := if contended then 1 else 0 } = container := by
      rw [← same]
    simp only [same, kept, bne_self_eq_false, Bool.false_eq_true, if_false, Change.ofSwitch, if_true]
    rfl
  · have named : Change.ofSwitch container.utilizationSwitch (if contended then 1 else 0) =
        [if contended then .contentionOn else .contentionOff] := by
      rw [Change.ofSwitch, if_neg same]
      cases contended <;> rfl
    simp only [bne_iff_ne.2 same, if_true, named]
    rfl

/-- What a tick over records finds out and makes of it. -/
theorem settle_plain (all : List Plain) (container : Plain) :
    settle (activityAmong all) (.ok container.observation)
        { container with recentKernel := container.aged } =
      (.ok (container.changes (container.SeesBlock all) (container.SeesContention all)),
        container.settled (container.SeesBlock all) (container.SeesContention all)) := by
  rw [settle, applySignals, access_bind, isBlocked_eq, applyBlock_plain]
  dsimp only
  rw [access_bind, isContended_eq, applyContention_plain]
  rfl

theorem tick_plain (all : List Plain) :
    Settles (fun container => container.SeesBlock all) (fun container => container.SeesContention all) all
      (tick all).1 (tick all).2 := by
  have settled : secondPass (activityAmong all) (firstPass all) = all.map fun container =>
      (.ok (container.changes (container.SeesBlock all) (container.SeesContention all)),
        container.settled (container.SeesBlock all) (container.SeesContention all)) := by
    rw [secondPass, firstPass_plain, List.map_map]
    exact List.map_congr_left fun container _ => settle_plain all container
  have ticked : tick all = (reportOf (activityAmong all)
      ((secondPass (activityAmong all) (firstPass all)).map (·.1)),
      (secondPass (activityAmong all) (firstPass all)).map (·.2)) := rfl
  rw [ticked, settled, List.map_map, List.map_map]
  refine ⟨rfl, ?_, ?_, ?_⟩
  · simp only [reportOf]
    rw [List.zipIdx_map, List.flatMap_map, List.zipIdx_map, List.flatMap_map]
    rfl
  · exact (List.countP_map ..).trans (List.countP_eq_length.2 fun _ _ => rfl)
  · exact (List.countP_map ..).trans (List.countP_eq_zero.2 fun _ _ => Bool.false_ne_true)

/-! ## Counters that do not run over -/

namespace Plain

variable {all : List Plain}

theorem FitCounters.shown_eq (fit : FitCounters all) (tier : Int) (uuid : String) :
    shown all tier uuid = load all tier uuid := Nat.mod_eq_of_lt (fit tier uuid)

-- The listings are many enough for any counter.
theorem fitCounters_of_length (few : (all.flatMap (·.devices)).length < UInt32.size) : FitCounters all := by
  intro tier uuid
  refine Nat.lt_of_le_of_lt (Nat.le_trans List.count_le_length ?_) few
  exact (List.filter_sublist.flatMap devices).length_le

theorem load_pos_iff {tier : Int} {uuid : String} : 0 < load all tier uuid ↔
    ∃ other ∈ all, other.IsActive ∧ other.tier = tier ∧ uuid ∈ other.devices := by
  simp only [load, List.count_pos_iff, List.mem_flatMap, List.mem_filter, decide_eq_true_eq, and_assoc]

theorem FitCounters.seesBlock_iff (fit : FitCounters all) (container : Plain) :
    container.SeesBlock all ↔ container.IsBlocked all := by
  simp only [SeesBlock, fit.shown_eq, load_pos_iff]
  constructor
  · rintro ⟨uuid, mine, tier, urgent, other, member, active, same, theirs⟩
    refine ⟨other, member, active, ?_, uuid, theirs, mine⟩
    rw [same, ← tierOf_eq]
    omega
  · rintro ⟨other, member, active, urgent, uuid, theirs, mine⟩
    rw [← tierOf_eq, ← tierOf_eq] at urgent
    exact ⟨uuid, mine, tierOf other.priority, by omega, other, member, active, (tierOf_eq other).symm, theirs⟩

theorem FitCounters.seesContention_iff (fit : FitCounters all) (container : Plain) :
    container.SeesContention all ↔ container.IsContended all := by
  simp only [SeesContention, fit.seesBlock_iff, fit.shown_eq, IsContended]

end Plain

end GpuShare.Feedback
