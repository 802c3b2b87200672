import GpuShare.Proofs.Lists
import GpuShare.Proofs.Wire.Grammar
import GpuShare.Proofs.Cluster.Pending

/-!
Which pods can be served, and which of them is. A pod can be served unless it is another node's, settled,
claimed or drained; one whose queue cannot be read is not drained, as whatever cannot be read has a comma. Main
statement: the first of the oldest candidates is served, and a pod that gives no time counts as the youngest.
-/

set_option autoImplicit false

namespace GpuShare

namespace Text

-- Trimming takes blanks only.
theorem mem_trim {cs : List Char} {c : Char} (member : c ∈ cs) (solid : isBlank c = false) : c ∈ trim cs := by
  apply List.mem_reverse.2
  apply mem_dropWhile _ solid
  apply List.mem_reverse.2
  exact mem_dropWhile member solid

end Text

namespace Wire

open Text

theorem Phase.read?_eq_some {text : String} {phase : Phase} :
    Phase.read? text = some phase ↔ text = phase.text := by
  constructor
  · intro reads
    unfold Phase.read? at reads
    split at reads
    · next is =>
      cases reads
      exact is
    · split at reads
      · next is =>
        cases reads
        exact is
      · split at reads
        · next is =>
          cases reads
          exact is
        · cases reads
  · rintro rfl
    exact Phase.read?_text phase

-- What is cut out as a record has a comma, and only characters of the text.
theorem Grants.comma_mem {text : String} {record : List Char}
    (member : record ∈ (recordsOf text).flatten) : ',' ∈ text.toList := by
  obtain ⟨container, listed, among⟩ := List.mem_flatten.1 member
  obtain ⟨part, cut, rfl⟩ := List.mem_map.1 listed
  obtain ⟨piece, comma⟩ := List.mem_filter.1 among
  have inPart := (mem_piece piece (List.contains_iff_mem.1 comma)).2
  split at cut
  · cases cut
  · exact (mem_piece cut inPart).2

theorem Grants.comma_mem_of_error {text : String} {error : DecodeError}
    (fails : decode text = .error error) : ',' ∈ text.toList := by
  obtain ⟨before, record, after, cut, -, -⟩ := decode_eq_error.1 fails
  have member : record ∈ (recordsOf text).flatten := by simp [cut]
  exact comma_mem member

end Wire

namespace Cluster

open Text

def HasEntries (text : String) : Prop :=
  (∃ error, Wire.Grants.decode text = .error error) ∨
    ∃ grants, Wire.Grants.decode text = .ok grants ∧ grants.flatten ≠ []

theorem asksForDevices_iff {text : String} : Pod.asksForDevices text = true ↔ HasEntries text := by
  unfold Pod.asksForDevices HasEntries
  cases reads : Wire.Grants.decode text with
  | ok grants => simp
  | error error =>
    have comma := mem_trim (Wire.Grants.comma_mem_of_error reads) (by decide)
    simp [List.ne_nil_of_mem comma]

namespace Pod

variable {pod : Pod} {node : String} {time : UInt64}

/-- A pod can be served on a node: it is assigned there, no outcome is written on it, nobody has claimed it, and
it has entries to hand out. -/
structure IsCandidate (node : String) (pod : Pod) : Prop where
  assigned : pod.annotation? Wire.assignedNode = some node
  unsettled : ∀ phase : Wire.Phase, pod.annotation? Wire.bindPhase = some phase.text → phase = .allocating
  unclaimed : pod.annotation? Wire.assignedTime ≠ some "18446744073709551615"
  pending : ∃ text, pod.annotation? Wire.devicesToAllocate = some text ∧ HasEntries text

theorem isSettled_eq_false : pod.isSettled = false ↔
    ∀ phase : Wire.Phase, pod.annotation? Wire.bindPhase = some phase.text → phase = .allocating := by
  have terminal_iff (phase : Wire.Phase) : phase.isTerminal = false ↔ phase = .allocating := by
    cases phase <;> decide
  unfold isSettled
  cases pod.annotation? Wire.bindPhase with
  | none => exact ⟨fun _ => nofun, fun _ => rfl⟩
  | some text =>
    simp only [Option.bind_some, Option.some.injEq, ← Wire.Phase.read?_eq_some]
    cases Wire.Phase.read? text with
    | none => exact ⟨fun _ => nofun, fun _ => rfl⟩
    | some phase => simp [terminal_iff]

theorem claimedText_eq : claimedText = "18446744073709551615" := by decide +kernel

theorem waitsOn_iff : pod.waitsOn node = true ↔ pod.IsCandidate node := by
  simp only [waitsOn, isClaimed, hasPendingEntries, claimedText_eq, Bool.and_eq_true, Bool.not_eq_true',
    beq_iff_eq, beq_eq_false_iff_ne, isSettled_eq_false, Option.any_eq_true, asksForDevices_iff]
  constructor
  · rintro ⟨⟨⟨assigned, unsettled⟩, unclaimed⟩, pending⟩
    exact ⟨assigned, unsettled, unclaimed, pending⟩
  · rintro ⟨assigned, unsettled, unclaimed, pending⟩
    exact ⟨⟨⟨assigned, unsettled⟩, unclaimed⟩, pending⟩

/-- A pod gives a time: a short text that is the numeral of a number of 64 bits. -/
def GivesTime (pod : Pod) (time : UInt64) : Prop :=
  ∃ text, pod.annotation? Wire.assignedTime = some text ∧ text.utf8ByteSize ≤ 24 ∧
    IsUnsigned text.toList time.toNat

theorem assignedTime_of_gives (gives : pod.GivesTime time) : pod.assignedTime = time := by
  obtain ⟨text, held, short, numeral⟩ := gives
  have reads : readUInt64? text.toList = some time := readUInt64?_eq_some.2 numeral
  rw [assignedTime, held]
  show timeOf text = time
  rw [timeOf, if_pos (show text.utf8ByteSize ≤ Wire.assignedTimeMaxBytes from short), reads, Option.getD_some]

theorem assignedTime_of_none (timeless : ∀ time, ¬ pod.GivesTime time) :
    pod.assignedTime = 18446744073709551615 := by
  unfold assignedTime
  split
  · next text held =>
    unfold timeOf
    split
    · next short =>
      have unreadable : readUInt64? text.toList = none := by
        apply Option.eq_none_iff_forall_ne_some.2
        intro time reads
        exact timeless time ⟨text, held, short, readUInt64?_eq_some.1 reads⟩
      rw [unreadable]
      rfl
    · rfl
  · rfl

theorem assignedTime_cases (pod : Pod) : (∃ time, pod.GivesTime time ∧ pod.assignedTime = time) ∨
    (∀ time, ¬ pod.GivesTime time) ∧ pod.assignedTime = 18446744073709551615 := by
  by_cases given : ∃ time, pod.GivesTime time
  · obtain ⟨time, gives⟩ := given
    exact .inl ⟨time, gives, assignedTime_of_gives gives⟩
  · have timeless := not_exists.1 given
    exact .inr ⟨timeless, assignedTime_of_none timeless⟩

/-- Among some pods, the one at a position is the first of the oldest that can be served: each other one is
younger, or as old and further behind. -/
structure IsFirstOldest (pods : List Pod) (node : String) (pod : Pod) (index : Nat) : Prop where
  held : pods[index]? = some pod
  candidate : pod.IsCandidate node
  leads : ∀ other place, pods[place]? = some other → other.IsCandidate node → place ≠ index →
    pod.assignedTime < other.assignedTime ∨ pod.assignedTime = other.assignedTime ∧ index < place

end Pod

variable {pods : List Pod} {node : String} {pod : Pod} {index : Nat}

theorem nextPod?_eq_none_iff : nextPod? pods node = none ↔ ∀ pod ∈ pods, ¬ pod.IsCandidate node := by
  constructor
  · intro nothing pod member candidate
    have idle := nextPod?_eq_none nothing pod member
    rw [Pod.waitsOn_iff.2 candidate] at idle
    cases idle
  · intro idle
    cases next : nextPod? pods node with
    | none => rfl
    | some chosen =>
      obtain ⟨member, waits⟩ := nextPod?_mem next
      exact absurd (Pod.waitsOn_iff.1 waits) (idle _ member)

theorem nextPod?_eq_some_iff :
    nextPod? pods node = some (pod, index) ↔ Pod.IsFirstOldest pods node pod index := by
  constructor
  · intro next
    obtain ⟨held, waits, first⟩ := nextPod?_first next
    refine ⟨held, Pod.waitsOn_iff.1 waits, fun other place there candidate apart => ?_⟩
    rcases first other place there (Pod.waitsOn_iff.2 candidate) with younger | ⟨tied, behind⟩
    · exact .inl younger
    · exact .inr ⟨tied, Nat.lt_of_le_of_ne behind apart.symm⟩
  · rintro ⟨held, candidate, leads⟩
    apply nextPod?_eq_some held (Pod.waitsOn_iff.2 candidate)
    intro other place there waits
    by_cases same : place = index
    · subst same
      cases held.symm.trans there
      exact .inr ⟨rfl, Nat.le_refl _⟩
    · rcases leads other place there (Pod.waitsOn_iff.1 waits) same with younger | ⟨tied, behind⟩
      · exact .inl younger
      · exact .inr ⟨tied, Nat.le_of_lt behind⟩

-- The last time there is comes before no other.
theorem assignedTime_of_timeless_first (first : Pod.IsFirstOldest pods node pod index)
    (timeless : ∀ time, ¬ pod.GivesTime time) {other : Pod} (member : other ∈ pods)
    (candidate : other.IsCandidate node) : other.assignedTime = 18446744073709551615 := by
  have last := Pod.assignedTime_of_none timeless
  obtain ⟨place, there⟩ := List.getElem?_of_mem member
  by_cases same : place = index
  · subst same
    cases first.held.symm.trans there
    exact last
  · have bound := other.assignedTime.toNat_lt
    have leads := first.leads other place there candidate same
    rw [last] at leads
    simp only [UInt64.lt_iff_toNat_lt, ← UInt64.toNat_inj, UInt64.reduceToNat] at leads ⊢
    omega

/-- No pod is next iff none can be served, and otherwise the first of the oldest that can be is. A pod is as old as
the time that it gives, and one that gives none is as young as can be: it is next only when all that can be
served are. -/
theorem nextPod?_is_oldest (pods : List Pod) (node : String) :
    (nextPod? pods node = none ↔ ∀ pod ∈ pods, ¬ pod.IsCandidate node) ∧
    (∀ pod index, nextPod? pods node = some (pod, index) ↔ Pod.IsFirstOldest pods node pod index) ∧
    (∀ pod : Pod, (∃ time, pod.GivesTime time ∧ pod.assignedTime = time) ∨
      (∀ time, ¬ pod.GivesTime time) ∧ pod.assignedTime = 18446744073709551615) ∧
    ∀ pod index, nextPod? pods node = some (pod, index) → (∀ time, ¬ pod.GivesTime time) →
      ∀ other ∈ pods, other.IsCandidate node → other.assignedTime = 18446744073709551615 := by
  refine ⟨nextPod?_eq_none_iff, fun pod index => nextPod?_eq_some_iff, Pod.assignedTime_cases, ?_⟩
  intro pod index next timeless other member candidate
  exact assignedTime_of_timeless_first (nextPod?_eq_some_iff.1 next) timeless member candidate

end Cluster

end GpuShare
