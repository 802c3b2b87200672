import GpuShare.Proofs.Text.Split
import GpuShare.Proofs.Text.Trim

/-!
Where a marker occurs first in a text, and the words and the lines of a text. A marker whose first character does
not come again in it overlaps with no other occurrence, so what stands before it decides where it occurs first.
-/

set_option autoImplicit false

namespace GpuShare.Text

variable {c m : Char} {ms cs front back word rest : List Char}

theorem infix_of_head_not_mem (absent : m ∉ front) (occurs : m :: ms <:+: front ++ back) : m :: ms <:+: back := by
  rcases List.infix_append_iff.1 occurs with inside | behind | ⟨first, second, cut, ends, starts⟩
  · exact absurd (inside.subset List.mem_cons_self) absent
  · exact behind
  · cases first with
    | nil =>
      rw [cut]
      exact starts.isInfix
    | cons c first =>
      obtain ⟨rfl, -⟩ := List.cons.inj cut
      exact absurd (ends.subset List.mem_cons_self) absent

theorem infix_of_last_not_mem (absent : m ∉ back) (occurs : ms ++ [m] <:+: front ++ back) : ms ++ [m] <:+: front := by
  rw [← List.reverse_infix, List.reverse_append] at occurs ⊢
  rw [List.reverse_append] at occurs
  exact infix_of_head_not_mem (by rwa [List.mem_reverse]) occurs

theorem infix_of_padded {marker core : List Char} (some_marker : marker ≠ []) (trimmed : IsTrimmed marker)
    (blankFront : IsBlankText front) (blankBack : IsBlankText back) (occurs : marker <:+: front ++ core ++ back) :
    marker <:+: core := by
  have solid {c : Char} {cs : List Char} (blank : IsBlankText cs) (black : isBlank c = false) : c ∉ cs := by
    intro member
    rw [blank c member] at black
    cases black
  rcases List.eq_nil_or_concat marker with rfl | ⟨ms, m, rfl⟩
  · exact absurd rfl some_marker
  rw [List.concat_eq_append] at *
  have occurs := infix_of_last_not_mem (solid blankBack (trimmed.last m List.getLast?_concat)) occurs
  cases start : ms ++ [m] with
  | nil => exact absurd start some_marker
  | cons c cs =>
    rw [start] at occurs trimmed
    exact infix_of_head_not_mem (solid blankFront (trimmed.head c rfl)) occurs

-- An occurrence that ends with a blank and starts in a word ends right behind the word.
theorem suffix_of_infix_word (solid : ∀ c ∈ word, isBlank c = false) (blank : isBlank c = true)
    (marker : ∀ c ∈ m :: ms, isBlank c = false) (starts : ∀ c ∈ rest.head?, isBlank c = true) (absent : m ∉ rest)
    (occurs : m :: ms ++ [c] <:+: word ++ rest) : m :: ms <:+ word := by
  rcases List.infix_append_iff.1 occurs with inside | behind | ⟨first, second, cut, ends, follows⟩
  · have member : c ∈ word := inside.subset (List.mem_append_right _ List.mem_cons_self)
    rw [solid c member] at blank
    cases blank
  · exact absurd (behind.subset List.mem_cons_self) absent
  · cases second with
    | nil =>
      rw [List.append_nil] at cut
      have member : c ∈ word := ends.subset (cut ▸ List.mem_append_right _ List.mem_cons_self)
      rw [solid c member] at blank
      cases blank
    | cons d second =>
      have isBlank : isBlank d = true := by
        obtain ⟨more, rfl⟩ := follows
        exact starts d rfl
      rcases List.eq_nil_or_concat second with rfl | ⟨front, last, rfl⟩
      · obtain ⟨same, -⟩ := List.append_inj' cut rfl
        rwa [same]
      · have member : d ∈ m :: ms := by
          rw [List.concat_eq_append, ← List.cons_append, ← List.append_assoc] at cut
          obtain ⟨same, -⟩ := List.append_inj' cut rfl
          rw [same]
          exact List.mem_append_right _ List.mem_cons_self
        rw [marker d member] at isBlank
        cases isBlank

section Occurrence

variable (apart : m ∉ ms) (absent : ¬ m :: ms <:+: front)
include apart absent

theorem stripStart?_of_absent (some_front : front ≠ []) (back : List Char) :
    stripStart? (m :: ms) (front ++ (m :: ms ++ back)) = none := by
  refine Option.eq_none_iff_forall_ne_some.2 fun rest strips => ?_
  rcases List.append_eq_append_iff.1 (stripStart?_eq_some.1 strips) with ⟨more, same, -⟩ | ⟨more, same, again⟩
  · exact absent ⟨[], more, by rw [same]; rfl⟩
  · cases front with
    | nil => exact some_front rfl
    | cons c front =>
      obtain ⟨rfl, same⟩ := List.cons.inj same
      cases more with
      | nil =>
        rw [List.append_nil] at same
        exact absent (same ▸ List.infix_rfl)
      | cons d more =>
        obtain ⟨rfl, -⟩ := List.cons.inj again
        rw [(List.cons.inj same).2] at apart
        exact apart (List.mem_append_right _ List.mem_cons_self)

theorem afterFirst?_append (back : List Char) : afterFirst? (m :: ms) (front ++ (m :: ms ++ back)) = some back := by
  induction front with
  | nil =>
    rw [List.nil_append, List.cons_append, afterFirst?, ← List.cons_append, stripStart?_eq_some.2 rfl]
  | cons c front ih =>
    have nothing := stripStart?_of_absent apart absent (List.cons_ne_nil c front) back
    rw [List.cons_append] at nothing ⊢
    rw [afterFirst?, nothing]
    exact ih fun occurs => absent (List.infix_cons occurs)

theorem beforeFirst?_append (back : List Char) :
    beforeFirst? (m :: ms) (front ++ (m :: ms ++ back)) = some front := by
  induction front with
  | nil =>
    rw [List.nil_append, List.cons_append, beforeFirst?, ← List.cons_append, stripStart?_eq_some.2 rfl]
  | cons c front ih =>
    have nothing := stripStart?_of_absent apart absent (List.cons_ne_nil c front) back
    rw [List.cons_append] at nothing ⊢
    rw [beforeFirst?, nothing]
    simp only [ih fun occurs => absent (List.infix_cons occurs), Option.map_some]

end Occurrence

/-- A marker that overlaps with no other occurrence of itself. -/
def IsMarker (marker : List Char) : Prop := ∃ m ms, marker = m :: ms ∧ m ∉ ms

/-- What stands between two markers, if neither occurs before its place. -/
theorem between?_append {opening closing inner : List Char} (opens : IsMarker opening) (closes : IsMarker closing)
    (absent : ¬ opening <:+: front) (closeAbsent : ¬ closing <:+: inner) (back : List Char) :
    between? opening closing (front ++ (opening ++ (inner ++ (closing ++ back)))) = some inner := by
  obtain ⟨m, ms, rfl, apart⟩ := opens
  obtain ⟨n, ns, rfl, closeApart⟩ := closes
  rw [between?, afterFirst?_append apart absent, Option.bind_some, beforeFirst?_append closeApart closeAbsent]

/-! ## Words -/

theorem words_cons_of_blank (blank : isBlank c = true) (cs : List Char) : words (c :: cs) = words cs := by
  unfold words
  simp [blank]

theorem words_blanks_append (blank : IsBlankText front) (cs : List Char) : words (front ++ cs) = words cs := by
  induction front with
  | nil => rfl
  | cons c front ih =>
    obtain ⟨first, blank⟩ := List.forall_mem_cons.1 blank
    rw [List.cons_append, words_cons_of_blank first, ih blank]

theorem words_append (some_word : word ≠ []) (solid : ∀ c ∈ word, isBlank c = false)
    (starts : ∀ c ∈ rest.head?, isBlank c = true) : words (word ++ rest) = word :: words rest := by
  have collects (later : List (List Char)) : word.foldr (fun c (state : List Char × List (List Char)) =>
      if isBlank c then ([], if state.1.isEmpty then state.2 else state.1 :: state.2)
      else (c :: state.1, state.2)) ([], later) = (word, later) := by
    induction word with
    | nil => rfl
    | cons d word ih =>
      obtain ⟨first, solid⟩ := List.forall_mem_cons.1 solid
      cases word with
      | nil => simp [first]
      | cons e word => rw [List.foldr_cons, ih (List.cons_ne_nil e word) solid, first]; rfl
  cases rest with
  | nil =>
    rw [List.append_nil]
    unfold words
    simp only [collects]
    simp only [List.isEmpty_iff, some_word, if_false, List.foldr_nil, if_true]
  | cons c cs =>
    have blank : isBlank c = true := starts c rfl
    rw [words_cons_of_blank blank cs]
    unfold words
    simp only [List.foldr_append, List.foldr_cons, blank, if_true, collects]
    simp only [List.isEmpty_iff, some_word, if_false]

/-! ## Lines -/

theorem trim_withoutReturn (line : List Char) : trim ((stripLast? '\r' line).getD line) = trim line := by
  cases strips : stripLast? '\r' line with
  | none => rfl
  | some front =>
    obtain rfl := stripLast?_eq_some.1 strips
    exact (trim_append_right (by decide) front).symm

/-- Up to blanks at their edges, the lines are what line feeds separate, but for an empty last one. -/
theorem map_trim_lines (cs : List Char) : ∃ rest, (splitOn '\n' cs).map trim = (lines cs).map trim ++ rest ∧
    ∀ line ∈ rest, line = [] := by
  unfold lines
  obtain ⟨init, last, pieces⟩ : ∃ init last, splitOn '\n' cs = init ++ [last] :=
    ⟨_, _, (List.dropLast_concat_getLast (splitOn_ne_nil '\n' cs)).symm⟩
  rw [pieces]
  simp only [List.dropLast_concat, List.getLast?_concat]
  cases last with
  | nil => exact ⟨[[]], by simp [trim_withoutReturn, Function.comp_def]; rfl, by simp⟩
  | cons c last => exact ⟨[], by simp [trim_withoutReturn, Function.comp_def], nofun⟩

end GpuShare.Text
