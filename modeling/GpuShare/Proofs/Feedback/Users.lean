import GpuShare.Proofs.Feedback.Tick
import Mathlib.Data.List.Nodup

/-!
Users of a device. The activity of a tick counts how often active containers list a device, within 32 bits, so a
container that lists a device twice counts twice. Where no active container does so, the count is that of the
containers, and contention takes two of them.
-/

set_option autoImplicit false

namespace GpuShare.Feedback

namespace Plain

variable {all before later : List Plain} {container : Plain} {tier : Int} {uuid : String}

def Uses (tier : Int) (uuid : String) (container : Plain) : Prop :=
  container.IsActive ∧ container.tier = tier ∧ uuid ∈ container.devices

instance (tier : Int) (uuid : String) (container : Plain) : Decidable (container.Uses tier uuid) :=
  inferInstanceAs (Decidable (_ ∧ _ ∧ _))

def users (all : List Plain) (tier : Int) (uuid : String) : Nat :=
  all.countP fun container => container.Uses tier uuid

def IsAlone (container : Plain) (others : List Plain) : Prop :=
  ∀ other ∈ others, container.devices.Disjoint other.devices

theorem load_append (before later : List Plain) (tier : Int) (uuid : String) :
    load (before ++ later) tier uuid = load before tier uuid + load later tier uuid := by
  simp [load]

theorem users_cons (container : Plain) (all : List Plain) (tier : Int) (uuid : String) :
    users (container :: all) tier uuid =
      (if container.Uses tier uuid then 1 else 0) + users all tier uuid := by
  simp [users, List.countP_cons, Nat.add_comm]

-- One container counts at least once if it uses the device, and not at all otherwise.
theorem count_of_uses (container : Plain) (tier : Int) (uuid : String) :
    (container.Uses tier uuid ∧ 1 ≤ container.devices.count uuid ∧
        (container.IsActive ∧ container.tier = tier)) ∨
      (¬ container.Uses tier uuid ∧
        (if container.IsActive ∧ container.tier = tier then container.devices.count uuid else 0) = 0) := by
  by_cases uses : container.Uses tier uuid
  · exact .inl ⟨uses, List.one_le_count_iff.2 uses.2.2, uses.1, uses.2.1⟩
  · refine .inr ⟨uses, ?_⟩
    split
    · next counted => exact List.count_eq_zero.2 fun listed => uses ⟨counted.1, counted.2, listed⟩
    · rfl

theorem users_le_load (all : List Plain) (tier : Int) (uuid : String) :
    users all tier uuid ≤ load all tier uuid := by
  induction all with
  | nil => simp [users]
  | cons container all ih =>
    rw [users_cons, load_cons]
    obtain ⟨uses, once, counted⟩ | ⟨uses, nothing⟩ := count_of_uses container tier uuid
    · rw [if_pos uses, if_pos counted]
      omega
    · rw [if_neg uses, nothing]
      omega

/-- The occurrences of a device are as many as its users exactly if each user lists it once. -/
theorem load_eq_users_iff :
    load all tier uuid = users all tier uuid ↔
      ∀ container ∈ all, container.Uses tier uuid → container.devices.count uuid ≤ 1 := by
  induction all with
  | nil => simp [load, users]
  | cons container all ih =>
    have least := users_le_load all tier uuid
    rw [users_cons, load_cons, List.forall_mem_cons, ← ih]
    obtain ⟨uses, once, counted⟩ | ⟨uses, nothing⟩ := count_of_uses container tier uuid
    · rw [if_pos uses, if_pos counted]
      simp only [uses, forall_const]
      omega
    · rw [if_neg uses, nothing]
      simp only [uses, false_implies, true_and, Nat.zero_add]

theorem one_lt_load_iff :
    1 < load all tier uuid ↔ 1 < users all tier uuid ∨
      ∃ container ∈ all, container.Uses tier uuid ∧ 1 < container.devices.count uuid := by
  have least := users_le_load all tier uuid
  by_cases once : ∀ container ∈ all, container.Uses tier uuid → container.devices.count uuid ≤ 1
  · rw [load_eq_users_iff.2 once]
    grind
  · -- A container that lists the device twice is a user that counts twice.
    have more : load all tier uuid ≠ users all tier uuid := fun same => once (load_eq_users_iff.1 same)
    have some_user : 0 < users all tier uuid := by
      rw [users, List.countP_pos_iff]
      grind
    grind

theorem isContended_iff_users : container.IsContended all ↔
    container.IsBlocked all ∨ ∃ uuid ∈ container.devices, 1 < users all container.tier uuid ∨
      ∃ other ∈ all, other.Uses container.tier uuid ∧ 1 < other.devices.count uuid := by
  simp only [IsContended, one_lt_load_iff]

section Alone

variable (alone : container.IsAlone (before ++ later))

include alone

theorem IsAlone.not_isBlocked : ¬ container.IsBlocked (before ++ container :: later) := by
  rintro ⟨other, member, -, urgent, uuid, theirs, mine⟩
  have among : other = container ∨ other ∈ before ++ later := by
    simp only [List.mem_append, List.mem_cons] at member ⊢
    tauto
  obtain rfl | among := among
  · exact absurd urgent (Int.lt_irrefl _)
  · exact alone other among mine theirs

theorem IsAlone.load_eq (listed : uuid ∈ container.devices) :
    load (before ++ container :: later) container.tier uuid =
      if container.IsActive then container.devices.count uuid else 0 := by
  have others : load (before ++ later) container.tier uuid = 0 := by
    simp only [load, List.count_eq_zero, List.mem_flatMap, List.mem_filter]
    rintro ⟨other, ⟨among, -⟩, theirs⟩
    exact alone other among listed theirs
  rw [load_append] at others
  rw [load_append, load_cons]
  simp only [and_true]
  omega

/-- A container that shares no device contends with itself if it is active and lists a device twice. -/
theorem IsAlone.isContended_iff :
    container.IsContended (before ++ container :: later) ↔
      container.IsActive ∧ ¬ container.devices.Nodup := by
  have loads : (∃ uuid ∈ container.devices,
      1 < load (before ++ container :: later) container.tier uuid) ↔
      ∃ uuid ∈ container.devices, 1 < if container.IsActive then container.devices.count uuid else 0 :=
    exists_congr fun uuid => and_congr_right fun listed => by rw [alone.load_eq listed]
  rw [IsContended, loads]
  simp only [alone.not_isBlocked, false_or, List.nodup_iff_count_le_one, not_forall, Nat.not_le]
  by_cases active : container.IsActive
  · simp only [active, if_true, true_and]
    refine exists_congr fun uuid => and_iff_right_of_imp fun twice => ?_
    exact List.count_pos_iff.1 (by omega)
  · simp [active]

end Alone

end Plain

open Plain

structure CountsListings (all : List Plain) (report : TickReport) (after : List Plain) : Prop where
  count : ∀ uuid (tier : Nat), report.activity.count uuid tier = load all tier uuid
  contended : ∀ (i : Nat) container settled, all[i]? = some container → after[i]? = some settled →
    (settled.utilizationSwitch = 1 ↔ container.IsBlocked all ∨ ∃ uuid ∈ container.devices,
      1 < users all container.tier uuid ∨
        ∃ other ∈ all, other.Uses container.tier uuid ∧ 1 < other.devices.count uuid)
  alone : ∀ before container later settled, all = before ++ container :: later →
    container.IsAlone (before ++ later) → after[before.length]? = some settled →
    (settled.utilizationSwitch = 1 ↔ container.IsActive ∧ ¬ container.devices.Nodup)

structure CountsUsers (all : List Plain) (report : TickReport) (after : List Plain) : Prop where
  count : ∀ uuid (tier : Nat), report.activity.count uuid tier = users all tier uuid
  contended : ∀ (i : Nat) container settled, all[i]? = some container → after[i]? = some settled →
    settled.utilizationSwitch = 1 → ¬ container.IsBlocked all →
    ∃ uuid ∈ container.devices, 1 < users all container.tier uuid
  alone : ∀ before container later settled, all = before ++ container :: later →
    container.IsAlone (before ++ later) → after[before.length]? = some settled →
    settled.utilizationSwitch = 0

section Ticks

variable {all : List Plain} {container settled : Plain} {i : Nat}

theorem count_tick (all : List Plain) (uuid : String) (tier : Nat) :
    (tick all).1.activity.count uuid tier = shown all tier uuid := count_activityAmong all uuid tier

theorem utilizationSwitch_tick (place : all[i]? = some container) (ends : (tick all).2[i]? = some settled) :
    settled.utilizationSwitch = settledSwitch (container.SeesContention all) := by
  rw [(tick_plain all).ends, List.getElem?_map, place] at ends
  obtain rfl := Option.some.inj ends
  rfl

theorem settledSwitch_eq_one_iff {contended : Bool} : settledSwitch contended = 1 ↔ contended = true := by
  cases contended <;> decide

theorem settledSwitch_eq_zero_iff {contended : Bool} : settledSwitch contended = 0 ↔ ¬ contended = true := by
  cases contended <;> decide

theorem tier_nonneg (container : Plain) : ∃ tier : Nat, container.tier = tier :=
  ⟨tierOf container.priority, (tierOf_eq container).symm⟩

section Fit

variable (fit : FitCounters all)

include fit

theorem switchedOn_iff (place : all[i]? = some container) (ends : (tick all).2[i]? = some settled) :
    settled.utilizationSwitch = 1 ↔ container.IsContended all := by
  rw [utilizationSwitch_tick place ends, settledSwitch_eq_one_iff, decide_eq_true_iff, fit.seesContention_iff]

theorem switchedOff_iff (place : all[i]? = some container) (ends : (tick all).2[i]? = some settled) :
    settled.utilizationSwitch = 0 ↔ ¬ container.IsContended all := by
  rw [utilizationSwitch_tick place ends, settledSwitch_eq_zero_iff, decide_eq_true_iff, fit.seesContention_iff]

theorem countsListings_tick : CountsListings all (tick all).1 (tick all).2 where
  count uuid tier := (count_tick all uuid tier).trans (fit.shown_eq tier uuid)
  contended i container settled place ends := by
    rw [switchedOn_iff fit place ends, isContended_iff_users]
  alone before container later settled split alone ends := by
    have place : all[before.length]? = some container := by simp [split]
    rw [switchedOn_iff fit place ends, split, alone.isContended_iff]

theorem countsUsers_tick_iff : CountsUsers all (tick all).1 (tick all).2 ↔
    ∀ container ∈ all, container.IsActive → container.devices.Nodup := by
  constructor
  · intro counts container member active
    obtain ⟨tier, tierIs⟩ := tier_nonneg container
    rw [List.nodup_iff_count_le_one]
    intro uuid
    by_cases listed : uuid ∈ container.devices
    · have same : load all tier uuid = users all tier uuid := by
        rw [← fit.shown_eq, ← count_tick, counts.count]
      exact load_eq_users_iff.1 same container member ⟨active, tierIs, listed⟩
    · rw [List.count_eq_zero.2 listed]
      omega
  · intro nodup
    have once : ∀ other ∈ all, ∀ tier uuid, other.Uses tier uuid → other.devices.count uuid ≤ 1 :=
      fun other member _ uuid uses => List.nodup_iff_count_le_one.1 (nodup other member uses.1) uuid
    refine ⟨fun uuid tier => ?_, fun i container settled place ends on free => ?_,
      fun before container later settled split alone ends => ?_⟩
    · rw [count_tick, fit.shown_eq, load_eq_users_iff]
      exact fun other member => once other member tier uuid
    · rw [switchedOn_iff fit place ends, isContended_iff_users] at on
      obtain ⟨uuid, listed, two | ⟨other, member, uses, twice⟩⟩ := on.resolve_left free
      · exact ⟨uuid, listed, two⟩
      · have single := once other member _ uuid uses
        omega
    · have place : all[before.length]? = some container := by simp [split]
      rw [switchedOff_iff fit place ends, split, alone.isContended_iff]
      have member : container ∈ all := by simp [split]
      exact fun ⟨active, repeated⟩ => repeated (nodup container member active)

end Fit

end Ticks

/-- Over containers whose accesses do not fail, a tick counts how often active containers list a device, and the
counters show it within their 32 bits. As long as none of them runs over, the tick counts the containers exactly
if none of the active ones lists a device twice. -/
theorem counts_users_iff {σ : Type} [Signals σ] [Faithful σ] (containers : List σ)
    (reliable : ∀ container ∈ containers, Faithful.Reliable container) :
    let all := containers.map Faithful.view
    (∀ uuid (tier : Nat), (tick containers).1.activity.count uuid tier = load all tier uuid % UInt32.size) ∧
      (FitCounters all →
        CountsListings all (tick containers).1 ((tick containers).2.map Faithful.view) ∧
          (CountsUsers all (tick containers).1 ((tick containers).2.map Faithful.view) ↔
            ∀ container ∈ all, container.IsActive → container.devices.Nodup)) := by
  obtain ⟨report, view⟩ := Faithful.tick_view reliable
  rw [report, view]
  exact ⟨count_tick _, fun fit => ⟨countsListings_tick fit, countsUsers_tick_iff fit⟩⟩

def tenants : List Plain := [⟨1, ["a"], 3, 0⟩, ⟨1, ["a", "b"], 2, 0⟩, ⟨0, ["c"], 9, 1⟩]

theorem counts_users_iff_tenants :
    (∀ container ∈ tenants, Faithful.Reliable container) ∧
      FitCounters tenants ∧ (∀ container ∈ tenants, container.IsActive → container.devices.Nodup) ∧
      CountsUsers tenants (tick tenants).1 (tick tenants).2 := by
  have reliable : ∀ container ∈ tenants, Faithful.Reliable container := fun _ _ => trivial
  have nodup : ∀ container ∈ tenants, container.IsActive → container.devices.Nodup := by decide
  have fit : FitCounters tenants := fitCounters_of_length (by decide)
  have same : tenants.map Faithful.view = tenants := List.map_id _
  have counts := (counts_users_iff tenants reliable).2
  have ends : (tick tenants).2.map Faithful.view = (tick tenants).2 := List.map_id _
  rw [same, ends] at counts
  exact ⟨reliable, fit, nodup, (counts fit).2.2 nodup⟩

/-- A container that lists its only device in two slots. -/
def lonely : Plain := ⟨0, ["a", "a"], 3, 0⟩

-- It is alone and not blocked, and is still counted twice and put in contention.
theorem lonely_container_contends_with_itself :
    (tick [lonely]).1.activity.count "a" 0 = 2 ∧ users [lonely] 0 "a" = 1 ∧
      (tick [lonely]).2 = [{ lonely with recentKernel := 2, utilizationSwitch := 1 }] ∧
      (tick [lonely]).1.changes = [(0, .contentionOn)] ∧
      ¬ lonely.IsBlocked [lonely] ∧ lonely.IsAlone [] ∧
      ¬ CountsUsers [lonely] (tick [lonely]).1 (tick [lonely]).2 := by
  have count : (tick [lonely]).1.activity.count "a" 0 = 2 := by decide
  have users : users [lonely] 0 "a" = 1 := by decide
  refine ⟨count, users, by decide, by decide, by decide, nofun, fun counts => ?_⟩
  have same := counts.count "a" 0
  rw [count] at same
  exact absurd (same.trans users) (by decide)

end GpuShare.Feedback
