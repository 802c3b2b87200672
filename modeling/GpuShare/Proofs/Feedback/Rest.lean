import GpuShare.Proofs.Feedback.Tick
import GpuShare.Proofs.Feedback.Isolation

/-!
Ticks that nothing else writes between. Every tick takes the largest launch counter down by one, so after as
many ticks as that counter says all counters and switches are zero, and from then on a tick writes nothing.
-/

set_option autoImplicit false

namespace GpuShare.Feedback

open Faithful

namespace Plain

variable {all : List Plain} {container : Plain}

/-- Nothing is launched or blocked, and no quota has to be kept. -/
def IsAtRest (container : Plain) : Prop :=
  container.recentKernel = 0 ∧ container.utilizationSwitch = 0

instance (container : Plain) : Decidable container.IsAtRest := inferInstanceAs (Decidable (_ ∧ _))

/-! ## One tick -/

theorem isActive_iff : container.IsActive ↔ 1 < container.recentKernel.toInt := Int32.lt_iff_toInt_lt

theorem shown_of_idle (idle : ∀ other ∈ all, ¬ other.IsActive) (tier : Int) (uuid : String) :
    shown all tier uuid = 0 := by
  have nobody : load all tier uuid = 0 := by
    refine Nat.eq_zero_of_not_pos fun some_load => ?_
    obtain ⟨other, member, active, -⟩ := load_pos_iff.1 some_load
    exact idle other member active
  rw [shown, nobody, Nat.zero_mod]

theorem not_seesBlock_of_idle (idle : ∀ other ∈ all, ¬ other.IsActive) : ¬ container.SeesBlock all := by
  simp [SeesBlock, shown_of_idle idle]

theorem not_seesContention_of_idle (idle : ∀ other ∈ all, ¬ other.IsActive) :
    ¬ container.SeesContention all := by
  simp [SeesContention, not_seesBlock_of_idle idle, shown_of_idle idle]

def afterTick (all : List Plain) (container : Plain) : Plain :=
  container.settled (container.SeesBlock all) (container.SeesContention all)

theorem tick_afterTick (all : List Plain) : (tick all).2 = all.map (afterTick all) := (tick_plain all).ends

theorem toInt_aged (container : Plain) : container.aged.toInt =
    if 0 < container.recentKernel.toInt then container.recentKernel.toInt - 1
    else container.recentKernel.toInt := by
  have least := container.recentKernel.le_toInt
  have most := container.recentKernel.toInt_lt
  simp only [aged, Int32.lt_iff_toInt_lt, Int32.toInt_zero]
  split
  · simp only [Int32.toInt_sub, Int32.toInt_one, Int.bmod]
    omega
  · rfl

theorem toInt_settledCounter (blocked : Bool) (container : Plain) :
    (container.settledCounter blocked).toInt =
      if blocked then min container.aged.toInt (-1) else max container.aged.toInt 0 := by
  simp only [settledCounter, Int32.le_iff_toInt_le, Int32.lt_iff_toInt_lt, Int32.toInt_zero]
  have block : (-1 : Int32).toInt = -1 := rfl
  split
  · split
    · omega
    · omega
  · split
    · rw [Int32.toInt_zero]
      omega
    · omega

-- Whatever the block does to a counter, it leaves no more launches than ageing does.
theorem settledCounter_le {n : Nat} (blocked : Bool) (most : container.recentKernel.toInt ≤ n + 1) :
    (container.settledCounter blocked).toInt ≤ n := by
  rw [toInt_settledCounter, toInt_aged]
  omega

theorem isAtRest_afterTick (few : ∀ other ∈ all, other.recentKernel.toInt ≤ 1) (member : container ∈ all) :
    (container.afterTick all).IsAtRest := by
  have idle : ∀ other ∈ all, ¬ other.IsActive := by
    intro other member active
    have := few other member
    have := isActive_iff.1 active
    omega
  have last := few container member
  have free : decide (container.SeesBlock all) = false := decide_eq_false (not_seesBlock_of_idle idle)
  have alone : decide (container.SeesContention all) = false :=
    decide_eq_false (not_seesContention_of_idle idle)
  rw [afterTick, free, alone]
  refine ⟨?_, rfl⟩
  apply Int32.toInt_inj.1
  simp only [settled, toInt_settledCounter, Bool.false_eq_true, if_false, toInt_aged, Int32.toInt_zero]
  omega

-- A container at rest has nothing to report, as long as all others are at rest.
theorem changes_of_isAtRest (rest : ∀ other ∈ all, other.IsAtRest) (member : container ∈ all) :
    container.changes (container.SeesBlock all) (container.SeesContention all) = [] := by
  have few : ∀ other ∈ all, other.recentKernel.toInt ≤ 1 := by
    intro other among
    simp [(rest other among).1]
  obtain ⟨counter, switch⟩ := isAtRest_afterTick few member
  have aged : container.aged = 0 := by
    simp [Plain.aged, (rest container member).1]
  have counter : container.settledCounter (container.SeesBlock all) = 0 := counter
  have switch : settledSwitch (container.SeesContention all) = 0 := switch
  simp [changes, Change.ofCounter, Change.ofSwitch, aged, counter, switch, (rest container member).2]

end Plain

/-! ## What is written -/

namespace Faulty

variable {σ α β : Type} [Signals σ] [Faithful σ] {carrier : Faulty σ}

def Reads (carrier : Faulty σ) (access : Access (Faulty σ) α) (a : α) : Prop :=
  ∃ after, access carrier = (.ok a, after) ∧ after.NeverFails ∧ carrier.IsUntouched after

namespace Reads

theorem pure (sound : carrier.NeverFails) (a : α) : carrier.Reads (Pure.pure a) a :=
  ⟨carrier, rfl, sound, rfl, rfl⟩

theorem bind {access : Access (Faulty σ) α} {next : α → Access (Faulty σ) β} {a : α} {b : β}
    (first : carrier.Reads access a)
    (rest : ∀ after : Faulty σ, after.NeverFails → view after.inner = view carrier.inner → after.Reads (next a) b) :
    carrier.Reads (access >>= next) b := by
  obtain ⟨middle, answer, sound, untouched⟩ := first
  obtain ⟨after, ends, still, later⟩ := rest middle sound untouched.shows
  refine ⟨after, ?_, still, untouched.trans later⟩
  rw [access_bind, answer]
  exact ends

theorem call {method : Method} {access : Access σ α} {value : Plain → α}
    (reads : Mirrors view Reliable access fun record => (.ok (value record), record))
    (sound : carrier.NeverFails) : carrier.Reads (call method access) (value (view carrier.inner)) := by
  obtain ⟨inner, reliable, shown, called⟩ := call_of_reads method reads sound.2
  have passes : carrier.failsNext method = false := sound.1 method _
  refine ⟨carrier.called method inner, ?_, ⟨sound.1, reliable⟩, .called shown⟩
  rw [called, passes]
  rfl

variable (sound : carrier.NeverFails)
include sound

theorem age (used : (view carrier.inner).recentKernel ≤ 0) : carrier.Reads Feedback.age
    ⟨tierOf (view carrier.inner).priority, (view carrier.inner).devices, false⟩ := by
  refine (call priority sound).bind fun first sound same => ?_
  rw [← same] at used ⊢
  refine (call deviceUuids sound).bind fun second sound same => ?_
  rw [← same] at used ⊢
  refine (call recentKernel sound).bind fun third sound same => ?_
  have idle : ¬ 0 < (view second.inner).recentKernel := by grind
  rw [if_neg idle]
  exact pure sound _

theorem applyBlock (free : 0 ≤ (view carrier.inner).recentKernel) :
    carrier.Reads (Feedback.applyBlock false) [] := by
  refine (call recentKernel sound).bind fun after sound _ => ?_
  have free : ¬ (view carrier.inner).recentKernel < 0 := by grind
  simp only [Bool.false_and, Bool.false_eq_true, if_false, free, decide_false, Bool.and_false]
  exact pure sound _

theorem applyContention (off : (view carrier.inner).utilizationSwitch = 0) :
    carrier.Reads (Feedback.applyContention false) [] := by
  refine (call utilizationSwitch sound).bind fun after sound _ => ?_
  simp only [off, Bool.false_eq_true, if_false, bne_self_eq_false]
  exact pure sound _

end Reads

end Faulty

section Ticks

variable {σ : Type} [Signals σ] [Faithful σ] {containers : List (Faulty σ)} {container : Faulty σ}

theorem isBlocked_idle (observation : Observation) : observation.isBlocked .idle = false :=
  List.any_eq_false.2 fun _ _ => Bool.false_ne_true

theorem isContended_idle (observation : Observation) : observation.isContended .idle = false := by
  rw [Observation.isContended, isBlocked_idle, Bool.false_or]
  exact List.any_eq_false.2 fun _ _ => Bool.false_ne_true

theorem age_of_isAtRest (sound : container.NeverFails) (rest : (view container).IsAtRest) :
    container.Reads age ⟨tierOf (view container).priority, (view container).devices, false⟩ :=
  .age sound (Int32.le_of_eq rest.1)

theorem activity_of_isAtRest (reliable : ∀ container ∈ containers, Reliable container)
    (rest : ∀ container ∈ containers, (view container).IsAtRest) :
    activityOf (observations containers) = .idle := by
  have nothing : (observations containers).flatMap recordsOf = [] := by
    simp only [observations, List.flatMap_map, List.flatMap_eq_nil_iff]
    intro container member
    obtain ⟨after, aged, -⟩ := age_of_isAtRest (reliable container member) (rest container member)
    rw [aged]
    rfl
  have tallies := tallies_activityOf (observations containers)
  rw [nothing] at tallies
  exact Activity.eq_idle_of_isEmpty tallies.isEmpty

theorem finish_of_isAtRest (sound : container.NeverFails) (rest : (view container).IsAtRest) :
    (finish .idle container).2.writes = container.writes := by
  obtain ⟨middle, aged, sound, untouched⟩ := age_of_isAtRest sound rest
  have shown : view middle.inner = view container.inner := untouched.shows
  have free : 0 ≤ (view middle.inner).recentKernel := by
    rw [shown]
    exact Int32.le_of_eq rest.1.symm
  have settled : middle.Reads
      (settle .idle (.ok ⟨tierOf (view container).priority, (view container).devices, false⟩)) [] := by
    rw [settle, applySignals, isContended_idle, isBlocked_idle]
    refine (Faulty.Reads.applyBlock sound free).bind fun after sound same => ?_
    have off : (view after.inner).utilizationSwitch = 0 := by
      rw [same, shown]
      exact rest.2
    exact (Faulty.Reads.applyContention sound off).bind fun after sound _ => .pure sound _
  obtain ⟨after, ends, -, later⟩ := settled
  rw [finish, aged]
  simp only [ends]
  exact later.writes.trans untouched.writes

theorem writes_tick (reliable : ∀ container ∈ containers, Reliable container)
    (rest : ∀ container ∈ containers, (view container).IsAtRest) :
    (tick containers).2.map (·.writes) = containers.map (·.writes) := by
  simp only [tick_eq, List.map_map, activity_of_isAtRest reliable rest]
  apply List.map_congr_left
  intro container member
  exact finish_of_isAtRest (reliable container member) (rest container member)

end Ticks

/-! ## Many ticks -/

section Runs

variable {σ : Type} [Signals σ]

def ticked : Nat → List σ → List σ
  | 0, containers => containers
  | n + 1, containers => ticked n (tick containers).2

/-- Ticks until all launches are used up: as many as the largest counter says, and at least one. -/
def ticksToRest (all : List Plain) : Nat :=
  (all.map fun container => container.recentKernel.toInt.toNat).foldr max 1

theorem ticksToRest_le_iff {all : List Plain} {n : Nat} :
    ticksToRest all ≤ n ↔ 1 ≤ n ∧ ∀ container ∈ all, container.recentKernel.toInt ≤ n := by
  induction all with
  | nil => simp [ticksToRest]
  | cons first rest ih =>
    unfold ticksToRest at ih ⊢
    simp only [List.map_cons, List.foldr_cons, Nat.max_le, ih, List.forall_mem_cons, Int.toNat_le]
    tauto

theorem isAtRest_ticked {n : Nat} {all : List Plain}
    (few : ∀ container ∈ all, container.recentKernel.toInt ≤ n + 1) :
    ∀ container ∈ ticked (n + 1) all, container.IsAtRest := by
  induction n generalizing all with
  | zero =>
    simp only [ticked, Plain.tick_afterTick, List.forall_mem_map]
    intro container member
    exact Plain.isAtRest_afterTick (by simpa using few) member
  | succ n ih =>
    rw [ticked]
    apply ih
    simp only [Plain.tick_afterTick, List.forall_mem_map]
    intro container member
    exact Plain.settledCounter_le _ (by simpa using few container member)

variable [Faithful σ] {containers : List σ}

theorem reliable_ticked (reliable : ∀ container ∈ containers, Reliable container) (n : Nat) :
    ∀ container ∈ ticked n containers, Reliable container := by
  induction n generalizing containers with
  | zero => exact reliable
  | succ n ih => exact ih (tick_reliable reliable)

theorem view_ticked (reliable : ∀ container ∈ containers, Reliable container) (n : Nat) :
    (ticked n containers).map view = ticked n (containers.map view) := by
  induction n generalizing containers with
  | zero => rfl
  | succ n ih => rw [ticked, ticked, ih (tick_reliable reliable), (tick_view reliable).2]

end Runs

section Rest

variable {σ : Type} [Signals σ] [Faithful σ] {containers : List (Faulty σ)} {n : Nat}

/-- As soon as there were as many ticks as the largest counter says, and at least one, all counters and
switches are zero. From then on a tick reports no change and writes to nothing. -/
theorem comes_to_rest (reliable : ∀ container ∈ containers, Reliable container)
    (enough : ticksToRest (containers.map view) ≤ n) :
    (∀ container ∈ ticked n containers, (view container).IsAtRest) ∧
      (tick (ticked n containers)).1.changes = [] ∧
      (tick (ticked n containers)).2.map (·.writes) = (ticked n containers).map (·.writes) := by
  have still := reliable_ticked reliable n
  have rest : ∀ record ∈ (ticked n containers).map view, record.IsAtRest := by
    obtain ⟨once, few⟩ := ticksToRest_le_iff.1 enough
    obtain ⟨n, rfl⟩ := Nat.exists_eq_add_of_le' once
    rw [view_ticked reliable]
    exact isAtRest_ticked (by simpa using few)
  refine ⟨by simpa using rest, ?_, writes_tick still (by simpa using rest)⟩
  rw [(tick_view still).1, (tick_plain _).changes]
  simp only [List.flatMap_eq_nil_iff, List.map_eq_nil_iff]
  intro entry member
  have listed := List.mem_map_of_mem (f := Prod.fst) member
  rw [List.zipIdx_map_fst] at listed
  obtain ⟨record, among, same⟩ := List.mem_map.1 listed
  rw [← same]
  exact Plain.changes_of_isAtRest rest among

/-- An urgent container that blocks another for two ticks, and one that is blocked for nothing. -/
def launching : List (Faulty Plain) :=
  [⟨⟨0, ["a"], 4, 0⟩, fun _ _ => false, [], []⟩, ⟨⟨1, ["a", "b"], 2, 0⟩, fun _ _ => false, [], []⟩,
    ⟨⟨2, ["c"], -1, 1⟩, fun _ _ => false, [], []⟩]

theorem comes_to_rest_launching :
    ticksToRest (launching.map view) = 4 ∧
    ¬ (∀ container ∈ ticked 3 launching, (view container).IsAtRest) ∧
    (∀ container ∈ ticked 4 launching, (view container).IsAtRest) ∧
    (tick (ticked 4 launching)).1.changes = [] ∧
    (tick (ticked 4 launching)).2.map (·.writes) = (ticked 4 launching).map (·.writes) := by
  have reliable : ∀ container ∈ launching, Reliable container := by
    simp [launching, Reliable, Faulty.NeverFails]
  exact ⟨by decide, by decide, comes_to_rest reliable (by decide)⟩

end Rest

end GpuShare.Feedback
