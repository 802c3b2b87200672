import GpuShare.Cluster.Pending
import GpuShare.Proofs.Lists

/-! The pod that is served next: of the pods that wait, the first with the earliest time. -/

set_option autoImplicit false

namespace GpuShare.Cluster

variable {pods : List Pod} {node : String} {chosen : Pod × Nat}

theorem foldl_earlier_mem (first : Pod × Nat) (others : List (Pod × Nat)) :
    others.foldl earlier first ∈ first :: others := by
  induction others generalizing first with
  | nil => exact List.mem_cons_self
  | cons second others ih =>
    rw [List.foldl_cons]
    have either : earlier first second = first ∨ earlier first second = second := by
      unfold earlier
      split
      · exact .inr rfl
      · exact .inl rfl
    rcases List.mem_cons.1 (ih (earlier first second)) with same | later
    · rw [same]
      rcases either with left | right
      · rw [left]
        exact List.mem_cons_self
      · rw [right]
        exact List.mem_cons_of_mem _ List.mem_cons_self
    · exact List.mem_cons_of_mem _ (List.mem_cons_of_mem _ later)

theorem nextPod?_eq_none (empty : nextPod? pods node = none) :
    ∀ pod ∈ pods, pod.waitsOn node = false := by
  intro pod member
  unfold nextPod? at empty
  split at empty
  · next nothing =>
    obtain ⟨index, held⟩ := List.getElem?_of_mem member
    have listed := List.mk_mem_zipIdx_iff_getElem?.2 held
    have out := List.filter_eq_nil_iff.1 nothing _ listed
    exact Bool.eq_false_iff.2 out
  · cases empty

theorem Pod.isClaimed_of_waitsOn {pod : Pod} (waits : pod.waitsOn node = true) :
    pod.isClaimed = false := by
  simp only [Pod.waitsOn, Bool.and_eq_true, Bool.not_eq_true'] at waits
  exact waits.1.2

def ComesFirst (first second : Pod × Nat) : Prop :=
  first.1.assignedTime < second.1.assignedTime ∨
    first.1.assignedTime = second.1.assignedTime ∧ first.2 ≤ second.2

theorem ComesFirst.trans {first second third : Pod × Nat} (left : ComesFirst first second)
    (right : ComesFirst second third) : ComesFirst first third := by
  simp only [ComesFirst, UInt64.lt_iff_toNat_lt, ← UInt64.toNat_inj] at left right ⊢
  omega

theorem ComesFirst.antisymm {first second : Pod × Nat} (left : ComesFirst first second)
    (right : ComesFirst second first) : first.2 = second.2 := by
  simp only [ComesFirst, UInt64.lt_iff_toNat_lt, ← UInt64.toNat_inj] at left right
  omega

theorem earlier_comesFirst {first second : Pod × Nat} (before : first.2 < second.2) :
    ComesFirst (earlier first second) first ∧ ComesFirst (earlier first second) second := by
  rw [earlier]
  split
  · next sooner => exact ⟨.inl sooner, .inr ⟨rfl, Nat.le_refl _⟩⟩
  · next later =>
    refine ⟨.inr ⟨rfl, Nat.le_refl _⟩, ?_⟩
    simp only [ComesFirst, UInt64.lt_iff_toNat_lt, ← UInt64.toNat_inj] at later ⊢
    omega

theorem foldl_earlier_comesFirst (first : Pod × Nat) (others : List (Pod × Nat))
    (sorted : (first :: others).Pairwise fun a b => a.2 < b.2) :
    ∀ other ∈ first :: others, ComesFirst (others.foldl earlier first) other := by
  induction others generalizing first with
  | nil =>
    intro other member
    rw [List.mem_singleton.1 member]
    exact .inr ⟨rfl, Nat.le_refl _⟩
  | cons second others ih =>
    obtain ⟨before, rest⟩ := List.pairwise_cons.1 sorted
    obtain ⟨after, tail⟩ := List.pairwise_cons.1 rest
    have here := before second List.mem_cons_self
    obtain ⟨left, right⟩ := earlier_comesFirst here
    have still : (earlier first second :: others).Pairwise fun a b => a.2 < b.2 := by
      refine List.pairwise_cons.2 ⟨fun other member => ?_, tail⟩
      have bound := after other member
      rw [earlier]
      split
      · exact bound
      · exact Nat.lt_trans here bound
    have leads := ih (earlier first second) still
    have front := leads _ List.mem_cons_self
    intro other member
    rcases List.mem_cons.1 member with rfl | member
    · exact front.trans left
    · rcases List.mem_cons.1 member with rfl | member
      · exact front.trans right
      · exact leads other (List.mem_cons_of_mem _ member)

-- The next pod waits, and comes before all others that do.
theorem nextPod?_first (next : nextPod? pods node = some chosen) :
    pods[chosen.2]? = some chosen.1 ∧ chosen.1.waitsOn node = true ∧
      ∀ other place, pods[place]? = some other → other.waitsOn node = true →
        ComesFirst chosen (other, place) := by
  have sorted := (pairwise_zipIdx pods 0).filter (·.1.waitsOn node)
  unfold nextPod? at next
  split at next
  · cases next
  · next front others waiting =>
    cases next
    have listed := foldl_earlier_mem front others
    rw [← waiting, List.mem_filter] at listed
    refine ⟨List.mk_mem_zipIdx_iff_getElem?.1 listed.1, listed.2, fun other place there waits => ?_⟩
    have among : (other, place) ∈ pods.zipIdx.filter (·.1.waitsOn node) :=
      List.mem_filter.2 ⟨List.mk_mem_zipIdx_iff_getElem?.2 there, waits⟩
    rw [waiting] at sorted among
    exact foldl_earlier_comesFirst front others sorted _ among

theorem nextPod?_mem (next : nextPod? pods node = some chosen) :
    chosen.1 ∈ pods ∧ chosen.1.waitsOn node = true := by
  obtain ⟨held, waits, -⟩ := nextPod?_first next
  exact ⟨List.mem_of_getElem? held, waits⟩

-- A pod that waits and comes before all others that do is the next one.
theorem nextPod?_eq_some {pod : Pod} {index : Nat} (held : pods[index]? = some pod)
    (waits : pod.waitsOn node = true)
    (first : ∀ other place, pods[place]? = some other → other.waitsOn node = true →
      ComesFirst (pod, index) (other, place)) : nextPod? pods node = some (pod, index) := by
  cases next : nextPod? pods node with
  | none =>
    have idle := nextPod?_eq_none next pod (List.mem_of_getElem? held)
    rw [waits] at idle
    cases idle
  | some chosen =>
    obtain ⟨other, place⟩ := chosen
    obtain ⟨there, also, leads⟩ := nextPod?_first next
    obtain rfl : index = place := (first other place there also).antisymm (leads pod index held waits)
    rw [Option.some.inj (held.symm.trans there)]

end GpuShare.Cluster
