import Mathlib.Data.List.Basic
import GpuShare.Dictionary

/-!
Dictionaries that look alike are the same. What is looked up in one that comes from a list of entries is what
the list says last, or all that it says if its keys are distinct.
-/

set_option autoImplicit false

namespace GpuShare.Dictionary

variable {α : Type}

theorem lookupEntry_eq_none {key : String} {entries : List (String × α)}
    (absent : ∀ entry ∈ entries, entry.1 ≠ key) : lookupEntry key entries = none := by
  induction entries with
  | nil => rfl
  | cons head tail ih =>
    rw [lookupEntry, if_neg (absent head List.mem_cons_self)]
    exact ih fun entry member => absent entry (List.mem_cons_of_mem _ member)

theorem lookupEntry_tail {key : String} {head : String × α} {tail : List (String × α)}
    (sorted : (head :: tail).Pairwise fun a b => a.1 < b.1) (same : head.1 = key) :
    lookupEntry key tail = none := by
  refine lookupEntry_eq_none fun entry member equal => ?_
  have before := (List.pairwise_cons.1 sorted).1 entry member
  rw [same, equal] at before
  exact String.lt_irrefl key before

theorem not_before_of_lookups {entry head : String × α} {others rest : List (String × α)}
    (sorted : (head :: rest).Pairwise fun a b => a.1 < b.1)
    (same : ∀ key, lookupEntry key (entry :: others) = lookupEntry key (head :: rest)) :
    ¬ entry.1 < head.1 := by
  intro before
  have absent : lookupEntry entry.1 (head :: rest) = none := by
    refine lookupEntry_eq_none (List.forall_mem_cons.2 ⟨?_, fun other member => ?_⟩)
    · grind
    · have after := (List.pairwise_cons.1 sorted).1 other member
      grind
  rw [← same, lookupEntry, if_pos rfl] at absent
  cases absent

-- Two lists in order that answer every look-up alike begin alike, and go on alike.
theorem entries_eq {first second : List (String × α)} (ordered : first.Pairwise fun a b => a.1 < b.1)
    (sorted : second.Pairwise fun a b => a.1 < b.1)
    (same : ∀ key, lookupEntry key first = lookupEntry key second) : first = second := by
  induction first generalizing second with
  | nil =>
    cases second with
    | nil => rfl
    | cons head rest => simpa [lookupEntry] using same head.1
  | cons entry others ih =>
    cases second with
    | nil => simpa [lookupEntry] using same entry.1
    | cons head rest =>
      have keys : entry.1 = head.1 := by
        have notBefore := not_before_of_lookups sorted same
        have notAfter := not_before_of_lookups ordered fun key => (same key).symm
        grind
      have heads : entry = head := by
        have values := same entry.1
        rw [lookupEntry, if_pos rfl, lookupEntry, if_pos keys.symm] at values
        exact Prod.ext keys (Option.some.inj values)
      subst heads
      congr 1
      refine ih (List.pairwise_cons.1 ordered).2 (List.pairwise_cons.1 sorted).2 fun key => ?_
      by_cases here : entry.1 = key
      · rw [lookupEntry_tail ordered here, lookupEntry_tail sorted here]
      · simpa only [lookupEntry, if_neg here] using same key

theorem ext_get? {first second : Dictionary α} (same : ∀ key, first.get? key = second.get? key) :
    first = second := by
  cases first with | mk entries ordered =>
  cases second with | mk others sorted =>
  congr 1
  exact entries_eq ordered sorted same

theorem ofList_concat (entries : List (String × α)) (entry : String × α) :
    ofList (entries ++ [entry]) = (ofList entries).insert entry.1 entry.2 := by
  simp [ofList]

theorem get?_inserted {entries : List (String × α)} (distinct : (entries.map (·.1)).Nodup)
    (dictionary : Dictionary α) (key : String) (value : α) :
    (entries.foldl (fun dictionary entry => dictionary.insert entry.1 entry.2) dictionary).get? key =
        some value ↔
      (key, value) ∈ entries ∨ (∀ entry ∈ entries, entry.1 ≠ key) ∧ dictionary.get? key = some value := by
  induction entries generalizing dictionary with
  | nil => simp
  | cons entry entries ih =>
    obtain ⟨fresh, distinct⟩ := List.nodup_cons.1 distinct
    rw [List.foldl_cons, ih distinct, get?_insert]
    obtain ⟨own, held⟩ := entry
    by_cases same : key = own
    · subst same
      have absent : ∀ other ∈ entries, other.1 ≠ key :=
        fun other member equal => fresh (List.mem_map.2 ⟨other, member, equal⟩)
      have unlisted : (key, value) ∉ entries := fun member => absent _ member rfl
      rw [if_pos rfl, List.mem_cons]
      constructor
      · rintro (listed | ⟨-, is⟩)
        · exact absurd listed unlisted
        · cases is
          exact .inl (.inl rfl)
      · rintro ((is | listed) | ⟨others, -⟩)
        · cases is
          exact .inr ⟨absent, rfl⟩
        · exact absurd listed unlisted
        · exact absurd rfl (others _ List.mem_cons_self)
    · simp [same, Ne.symm same]

theorem get?_ofList {entries : List (String × α)} (distinct : (entries.map (·.1)).Nodup) (key : String)
    (value : α) : (ofList entries).get? key = some value ↔ (key, value) ∈ entries := by
  rw [ofList, get?_inserted distinct, get?_empty]
  simp

theorem get?_map {β : Type} (f : α → β) (dictionary : Dictionary α) (key : String) :
    (dictionary.map f).get? key = (dictionary.get? key).map f := by
  simp only [get?, map]
  induction dictionary.entries with
  | nil => rfl
  | cons entry entries ih =>
    rw [List.map_cons, lookupEntry, lookupEntry, ih]
    split
    · rfl
    · rfl

theorem mem_keys_insertEntry {key other : String} {value : α} {entries : List (String × α)} :
    other ∈ (insertEntry key value entries).map (·.1) ↔ other = key ∨ other ∈ entries.map (·.1) := by
  induction entries with
  | nil => simp [insertEntry]
  | cons entry entries ih =>
    simp only [insertEntry]
    split
    · simp
    · split
      · next same => simp [same]
      · simp only [List.map_cons, List.mem_cons, ih]
        exact or_left_comm

theorem mem_keys_ofList {key : String} {entries : List (String × α)} :
    key ∈ (ofList entries).keys ↔ key ∈ entries.map (·.1) := by
  suffices general : ∀ dictionary : Dictionary α,
      key ∈ (entries.foldl (fun dictionary entry => dictionary.insert entry.1 entry.2) dictionary).keys ↔
        key ∈ entries.map (·.1) ∨ key ∈ dictionary.keys from
    (general empty).trans (or_iff_left List.not_mem_nil)
  intro dictionary
  induction entries generalizing dictionary with
  | nil => simp
  | cons entry entries ih =>
    rw [List.foldl_cons, ih, List.map_cons, List.mem_cons, or_assoc, or_left_comm]
    exact or_congr_right mem_keys_insertEntry

theorem nodup_keys (dictionary : Dictionary α) : dictionary.keys.Nodup :=
  List.pairwise_map.2 (dictionary.sorted.imp String.ne_of_lt)

end GpuShare.Dictionary
