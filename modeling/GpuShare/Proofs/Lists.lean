import Mathlib.Algebra.GroupWithZero.Nat
import Mathlib.Data.List.Forall2
import Mathlib.Data.List.Nodup
import Mathlib.Data.List.Perm.Basic
import Mathlib.Data.List.TakeWhile

/-!
Lists: the places of their entries, what is left of them by a filter, and numbered entries.
-/

set_option autoImplicit false

namespace GpuShare

variable {α β κ ι : Type}

section Places

variable {entries : List α} {entry : α} {position : Nat}

theorem eq_singleton_of_mem (member : entry ∈ entries) (short : entries.length ≤ 1) : entries = [entry] := by
  obtain ⟨only, single⟩ := List.length_eq_one_iff.1 (Nat.le_antisymm short (List.length_pos_of_mem member))
  rw [single, List.mem_singleton] at member
  rw [single, member]

theorem eq_take_append (held : entries[position]? = some entry) :
    entries = entries.take position ++ entry :: entries.drop (position + 1) := by
  obtain ⟨below, rfl⟩ := List.getElem?_eq_some_iff.1 held
  conv_lhs => rw [← List.take_append_drop position entries, List.drop_eq_getElem_cons below]

theorem set_eq_take_append (held : entries[position]? = some entry) (changed : α) :
    entries.set position changed = entries.take position ++ changed :: entries.drop (position + 1) := by
  rw [List.set_eq_take_append_cons_drop, if_pos (List.getElem?_eq_some_iff.1 held).1]

theorem sum_set_lt {l : List Nat} {i a b : Nat} (held : l[i]? = some a) (less : b < a) :
    (l.set i b).sum < l.sum := by
  induction l generalizing i with
  | nil => cases held
  | cons first rest ih =>
    cases i with
    | zero =>
      obtain rfl := Option.some.inj held
      simp [less]
    | succ i =>
      have later := ih held
      simp only [List.set_cons_succ, List.sum_cons]
      omega

-- In a list without doubles, what is made of one member has nothing of what is made of another.
theorem not_mem_of_nodup_flatMap {f : α → List β} (once : (entries.flatMap f).Nodup) {i j : Nat}
    {first second : α} (differ : i ≠ j) (here : entries[i]? = some first) (there : entries[j]? = some second)
    {b : β} (member : b ∈ f first) : b ∉ f second := by
  obtain ⟨-, apart⟩ := List.nodup_flatMap.1 once
  obtain ⟨below, rfl⟩ := List.getElem?_eq_some_iff.1 here
  obtain ⟨below', rfl⟩ := List.getElem?_eq_some_iff.1 there
  rcases Nat.lt_or_gt_of_ne differ with before | after
  · exact fun also => List.pairwise_iff_getElem.1 apart i j below below' before member also
  · exact fun also => List.pairwise_iff_getElem.1 apart j i below' below after also member

end Places

section Filtered

theorem mem_dropWhile {p : α → Bool} {list : List α} {a : α} (member : a ∈ list)
    (fails : p a = false) : a ∈ list.dropWhile p := by
  rw [← List.takeWhile_append_dropWhile (p := p) (l := list), List.mem_append] at member
  rcases member with dropped | kept
  · cases fails.symm.trans (List.mem_takeWhile_imp dropped)
  · exact kept

-- Sorting a list by keys that cover it loses nothing and doubles nothing.
theorem flatMap_filter_perm [DecidableEq κ] {keys : List κ} {list : List α} (key : α → κ)
    (once : keys.Nodup) (covers : ∀ a ∈ list, key a ∈ keys) :
    (keys.flatMap fun k => list.filter (key · == k)).Perm list := by
  induction keys generalizing list with
  | nil =>
    rw [List.eq_nil_iff_forall_not_mem.2 fun a member => List.not_mem_nil (covers a member)]
    exact .nil
  | cons first keys ih =>
    obtain ⟨fresh, once⟩ := List.nodup_cons.1 once
    have others : keys.flatMap (fun k => list.filter (key · == k)) =
        keys.flatMap fun k => (list.filter (!key · == first)).filter (key · == k) := by
      refine List.flatMap_congr fun k member => ?_
      rw [List.filter_filter]
      refine List.filter_congr fun a _ => ?_
      have differs : k ≠ first := fun same => fresh (same ▸ member)
      by_cases is : key a = k <;> simp [is, differs]
    rw [List.flatMap_cons, others]
    refine (List.Perm.append_left _ (ih once fun a member => ?_)).trans (List.filter_append_perm _ _)
    obtain ⟨member, other⟩ := List.mem_filter.1 member
    exact (List.mem_cons.1 (covers a member)).resolve_left (by simpa using other)

theorem flatMap_filter_of_nil (p : α → Bool) {f : α → List β} {entries : List α}
    (empty : ∀ entry ∈ entries, p entry = false → f entry = []) :
    (entries.filter p).flatMap f = entries.flatMap f := by
  induction entries with
  | nil => rfl
  | cons first rest ih =>
    have later := ih fun entry member => empty entry (List.mem_cons_of_mem _ member)
    rw [List.filter_cons, List.flatMap_cons]
    split
    · rw [List.flatMap_cons, later]
    · next other => rw [later, empty first List.mem_cons_self (by simpa using other), List.nil_append]

-- What is not kept gives nothing, so the entries that are kept give their results in their order.
theorem forall₂_filterMap {f : ι → Option β} {kept : ι → Bool} {R : ι → β → Prop}
    (filled : ∀ i, kept i = true → ∃ b, f i = some b ∧ R i b)
    (empty : ∀ i, kept i = false → f i = none) (entries : List ι) :
    List.Forall₂ R (entries.filter kept) (entries.filterMap f) := by
  induction entries with
  | nil => exact .nil
  | cons i entries ih =>
    cases here : kept i with
    | true =>
      obtain ⟨b, held, related⟩ := filled i here
      rw [List.filter_cons_of_pos here, List.filterMap_cons_some held]
      exact .cons related ih
    | false =>
      rw [List.filter_cons_of_neg (by simp [here]), List.filterMap_cons_none (empty i here)]
      exact ih

end Filtered

section Numbered

theorem pairwise_zipIdx (entries : List α) (start : Nat) :
    (entries.zipIdx start).Pairwise fun a b => a.2 < b.2 := by
  rw [← List.pairwise_map, List.zipIdx_map_snd]
  exact List.pairwise_lt_range'

theorem filter_zipIdx_fst (p : α → Bool) (entries : List α) (start : Nat) :
    ((entries.zipIdx start).filter fun entry => p entry.1).map (·.1) = entries.filter p := by
  induction entries generalizing start with
  | nil => rfl
  | cons first rest ih =>
    rw [List.zipIdx_cons, List.filter_cons, List.filter_cons]
    split
    · rw [List.map_cons, ih]
    · exact ih (start + 1)

theorem filter_zipIdx_snd (p : α → Bool) (entries : List α) (start : Nat) :
    ((entries.zipIdx start).filter fun entry => p entry.1).map (·.2) = entries.findIdxs p start := by
  induction entries generalizing start with
  | nil => rfl
  | cons first rest ih =>
    rw [List.zipIdx_cons, List.filter_cons, List.findIdxs_cons]
    split
    · rw [List.map_cons, ih]
    · exact ih (start + 1)

theorem flatMap_zipIdx_eq (f : α → List β) (entries : List α) (start index : Nat) :
    ((entries.zipIdx start).flatMap fun entry => if entry.2 = start + index then f entry.1 else []) =
      (entries[index]?.map f).getD [] := by
  induction entries generalizing start index with
  | nil => rfl
  | cons first rest ih =>
    rw [List.zipIdx_cons, List.flatMap_cons]
    cases index with
    | zero =>
      -- All later entries have later numbers.
      have later : ∀ entry ∈ rest.zipIdx (start + 1), entry.2 ≠ start + 0 := by
        intro entry member
        have least := List.le_snd_of_mem_zipIdx member
        omega
      have none_left : (rest.zipIdx (start + 1)).flatMap
          (fun entry => if entry.2 = start + 0 then f entry.1 else []) = [] := by
        rw [List.flatMap_eq_nil_iff]
        intro entry member
        rw [if_neg (later entry member)]
      rw [none_left]
      simp
    | succ index =>
      have earlier : ¬ start = start + (index + 1) := by omega
      have same : start + (index + 1) = start + 1 + index := by omega
      rw [if_neg earlier, same, ih]
      rfl

/-- What is listed of numbered entries is listed of the entries themselves, with their places for the numbers. -/
theorem forall₂_renumber (f : α → List β) (numbered : List (α × Nat)) :
    List.Forall₂ (fun change shown => (numbered.map (·.2))[shown.1]? = some change.1 ∧ change.2 = shown.2)
      (numbered.flatMap fun entry => (f entry.1).map fun b => (entry.2, b))
      ((numbered.map (·.1)).zipIdx.flatMap fun entry => (f entry.1).map fun b => (entry.2, b)) := by
  have places : numbered.zipIdx.map (·.1) = numbered := List.zipIdx_map_fst 0 numbered
  have aligned : List.Forall₂
      (fun entry shown => shown.1 = entry.1 ∧ (numbered.map (·.2))[shown.2]? = some entry.2)
      (numbered.zipIdx.map (·.1)) (numbered.map (·.1)).zipIdx := by
    rw [List.zipIdx_map, List.forall₂_map_left_iff, List.forall₂_map_right_iff, List.forall₂_same]
    intro entry member
    have place := List.mem_zipIdx_iff_getElem?.1 member
    simp [place]
  rw [places] at aligned
  apply List.rel_flatMap aligned
  rintro ⟨a, number⟩ ⟨_, place⟩ ⟨rfl, held⟩
  rw [List.forall₂_map_left_iff, List.forall₂_map_right_iff, List.forall₂_same]
  intro b _
  exact ⟨held, rfl⟩

end Numbered

end GpuShare
