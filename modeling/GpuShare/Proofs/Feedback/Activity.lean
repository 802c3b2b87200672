import Mathlib.Data.List.Basic
import GpuShare.Feedback.Controller

/-!
What the counters of an activity say of the records that made it: a counter shows how often its tier was recorded
for its device, within its 32 bits, and a more urgent tier is seen as long as one of its counters is not zero.
-/

set_option autoImplicit false

namespace GpuShare.Feedback

/-! ## Counters by tier -/

section Counters

variable {counters : List UInt32}

theorem getD_rightpad (counters : List UInt32) (size place : Nat) :
    (counters.rightpad size 0)[place]?.getD 0 = counters[place]?.getD 0 := by
  rw [List.rightpad, List.getElem?_append]
  split
  · rfl
  · next beyond =>
    rw [List.getElem?_replicate, List.getElem?_eq_none (Nat.not_lt.1 beyond)]
    split <;> rfl

-- A counter that is grown to first goes up by one, and no other one changes.
theorem getD_counted (counters : List UInt32) (tier place : Nat) :
    ((counters.rightpad (tier + 1) 0).modify tier (· + 1))[place]?.getD 0 =
      counters[place]?.getD 0 + if place = tier then 1 else 0 := by
  rw [List.getElem?_modify, ← getD_rightpad counters (tier + 1) place]
  by_cases here : place = tier
  · have inside : place < (counters.rightpad (tier + 1) 0).length := by
      simp only [List.rightpad, List.length_append, List.length_replicate]
      omega
    rw [List.getElem?_eq_getElem inside, if_pos here]
    simp only [here, if_true, Functor.map, Option.map_some, Option.getD_some]
  · simp [here, Ne.symm here]

theorem any_take_iff (counters : List UInt32) (tier : Nat) :
    (counters.take tier).any (0 < ·) = true ↔ ∃ place < tier, 0 < counters[place]?.getD 0 := by
  simp only [List.any_eq_true, List.mem_take_iff_getElem, decide_eq_true_eq]
  constructor
  · rintro ⟨_, ⟨place, inside, rfl⟩, positive⟩
    have ⟨before, among⟩ := Nat.lt_min.1 inside
    exact ⟨place, before, by rwa [List.getElem?_eq_getElem among]⟩
  · rintro ⟨place, before, positive⟩
    by_cases among : place < counters.length
    · rw [List.getElem?_eq_getElem among] at positive
      exact ⟨_, ⟨place, Nat.lt_min.2 ⟨before, among⟩, rfl⟩, positive⟩
    · rw [List.getElem?_eq_none (Nat.not_lt.1 among)] at positive
      exact absurd positive (by decide)

end Counters

namespace Activity

variable {activity : Activity} {records : List (String × Nat)}

theorem counter_eq (activity : Activity) (uuid : String) (tier : Nat) :
    activity.counter uuid tier = ((activity.perDevice.get? uuid).getD [])[tier]?.getD 0 := by
  rw [counter]
  cases activity.perDevice.get? uuid with
  | none => rfl
  | some counters => rfl

theorem counter_record (activity : Activity) (uuid other : String) (tier place : Nat) :
    (activity.record uuid tier).counter other place =
      activity.counter other place + if other = uuid ∧ place = tier then 1 else 0 := by
  rw [counter_eq, counter_eq, record, Dictionary.get?_insert]
  by_cases same : other = uuid
  · simp only [same, if_true, true_and, Option.getD_some, getD_counted]
  · simp [same]

theorem higherTierActive_eq_true_iff (uuid : String) (tier : Nat) :
    activity.higherTierActive uuid tier = true ↔ ∃ place < tier, 0 < activity.count uuid place := by
  have shows (place : Nat) : 0 < activity.count uuid place ↔
      0 < ((activity.perDevice.get? uuid).getD [])[place]?.getD 0 := by
    rw [count, counter_eq, UInt32.lt_iff_toNat_lt]
    rfl
  simp only [shows]
  rw [higherTierActive, ← any_take_iff]
  cases activity.perDevice.get? uuid with
  | none => simp
  | some counters => rfl

/-- An activity is made of records of devices and tiers. -/
structure Tallies (activity : Activity) (records : List (String × Nat)) : Prop where
  counter : ∀ uuid tier, activity.counter uuid tier = UInt32.ofNat (records.count (uuid, tier))
  isEmpty : activity.isEmpty = records.isEmpty

theorem tallies_idle : idle.Tallies [] := ⟨fun _ _ => rfl, rfl⟩

theorem isEmpty_record (activity : Activity) (uuid : String) (tier : Nat) :
    (activity.record uuid tier).isEmpty = false := by
  have held : ((activity.record uuid tier).perDevice.get? uuid).isSome = true := by
    rw [record, Dictionary.get?_insert, if_pos rfl]
    rfl
  rw [isEmpty, List.isEmpty_eq_false_iff]
  intro nothing
  rw [Dictionary.get?, nothing] at held
  cases held

theorem Tallies.record (tallies : activity.Tallies records) (uuid : String) (tier : Nat) :
    (activity.record uuid tier).Tallies (records ++ [(uuid, tier)]) where
  counter other place := by
    rw [counter_record, tallies.counter, List.count_append, UInt32.ofNat_add]
    congr 1
    by_cases same : other = uuid ∧ place = tier
    · simp [same]
    · have differs : (uuid, tier) ≠ (other, place) := fun equal =>
        same ⟨(Prod.mk.inj equal).1.symm, (Prod.mk.inj equal).2.symm⟩
      simp [same, differs]
  isEmpty := by simp [isEmpty_record]

theorem Tallies.recorded (tallies : activity.Tallies records) (devices : List String) (tier : Nat) :
    (devices.foldl (fun activity uuid => activity.record uuid tier) activity).Tallies
      (records ++ devices.map fun uuid => (uuid, tier)) := by
  induction devices generalizing activity records with
  | nil => simpa using tallies
  | cons uuid devices ih => simpa using ih (tallies.record uuid tier)

theorem Tallies.count (tallies : activity.Tallies records) (uuid : String) (tier : Nat) :
    activity.count uuid tier = records.count (uuid, tier) % UInt32.size := by
  rw [Activity.count, tallies.counter]
  exact UInt32.toNat_ofNat'

theorem eq_idle_of_isEmpty (empty : activity.isEmpty = true) : activity = idle := by
  cases activity with | mk perDevice =>
  cases perDevice with | mk entries sorted =>
  obtain rfl : entries = [] := List.isEmpty_iff.1 empty
  rfl

end Activity

/-! ## The first pass -/

/-- What is recorded of a container: its tier, once for every device that it lists, if it is active. -/
def Observation.records (observation : Observation) : List (String × Nat) :=
  if observation.active then observation.devices.map fun uuid => (uuid, observation.tier) else []

/-- A container that fails in the first pass is not recorded. -/
def recordsOf : Except StorageFailure Observation → List (String × Nat)
  | .ok observation => observation.records
  | .error _ => []

theorem tallies_recordIn {activity : Activity} {records : List (String × Nat)}
    (tallies : activity.Tallies records) (observation : Observation) :
    (observation.recordIn activity).Tallies (records ++ observation.records) := by
  unfold Observation.recordIn Observation.records
  split
  · exact tallies.recorded observation.devices observation.tier
  · rwa [List.append_nil]

theorem tallies_activityOf (observations : List (Except StorageFailure Observation)) :
    (activityOf observations).Tallies (observations.flatMap recordsOf) := by
  suffices general : ∀ (activity : Activity) (records : List (String × Nat)), activity.Tallies records →
      (observations.foldl (fun activity observed =>
        match observed with
        | .ok observation => observation.recordIn activity
        | .error _ => activity) activity).Tallies (records ++ observations.flatMap recordsOf) from
    general .idle [] Activity.tallies_idle
  induction observations with
  | nil => simp
  | cons observed observations ih =>
    intro activity records tallies
    rw [List.foldl_cons, List.flatMap_cons, ← List.append_assoc]
    apply ih
    cases observed with
    | ok observation => exact tallies_recordIn tallies observation
    | error failure => simpa [recordsOf] using tallies

end GpuShare.Feedback
