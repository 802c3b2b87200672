import Mathlib.Data.List.TakeWhile
import GpuShare.Proofs.Text.Split
import GpuShare.Text.Blank

/-!
What is left of a text without the blanks at its edges: the one text without blanks at its own edges that lies
between blanks there.
-/

set_option autoImplicit false

namespace GpuShare.Text

variable {cs core front back : List Char}

def IsBlankText (cs : List Char) : Prop := ∀ c ∈ cs, isBlank c = true

structure IsTrimmed (cs : List Char) : Prop where
  head : ∀ c ∈ cs.head?, isBlank c = false
  last : ∀ c ∈ cs.getLast?, isBlank c = false

instance (cs : List Char) : Decidable (IsBlankText cs) := List.decidableBAll (isBlank · = true) cs

instance (cs : List Char) : Decidable (IsTrimmed cs) :=
  decidable_of_iff (cs.head?.all (!isBlank ·) = true ∧ cs.getLast?.all (!isBlank ·) = true)
    (by simp only [Option.all_eq_true, Bool.not_eq_true']
        exact ⟨fun ⟨head, last⟩ => ⟨head, last⟩, fun ⟨head, last⟩ => ⟨head, last⟩⟩)

/-- A text is another one between blanks. -/
structure TrimsTo (cs core : List Char) : Prop where
  padded : ∃ front back, IsBlankText front ∧ IsBlankText back ∧ cs = front ++ core ++ back
  trimmed : IsTrimmed core

theorem trimStart_append (blank : IsBlankText front) (cs : List Char) : trimStart (front ++ cs) = trimStart cs :=
  List.dropWhile_append_of_pos blank

theorem trimStart_of_head (solid : ∀ c ∈ cs.head?, isBlank c = false) : trimStart cs = cs := by
  cases cs with
  | nil => rfl
  | cons c cs => exact List.dropWhile_cons_of_neg (by simp [solid c rfl])

theorem trimStart_eq (cs : List Char) : ∃ front, IsBlankText front ∧ cs = front ++ trimStart cs :=
  ⟨cs.takeWhile isBlank, fun _ member => List.mem_takeWhile_imp member, List.takeWhile_append_dropWhile.symm⟩

theorem head_trimStart (cs : List Char) : ∀ c ∈ (trimStart cs).head?, isBlank c = false := by
  intro c first
  have stops := List.head?_dropWhile_not isBlank cs
  rw [show (cs.dropWhile isBlank).head? = some c from first] at stops
  exact stops

-- The end of a text is the start of its reverse.
theorem trimEnd_eq_reverse (cs : List Char) : trimEnd cs = (trimStart cs.reverse).reverse := rfl

theorem isBlankText_reverse : IsBlankText cs.reverse ↔ IsBlankText cs := by simp [IsBlankText]

theorem trimEnd_append (blank : IsBlankText back) (cs : List Char) : trimEnd (cs ++ back) = trimEnd cs := by
  rw [trimEnd_eq_reverse, List.reverse_append, trimStart_append (isBlankText_reverse.2 blank)]
  rfl

theorem trimEnd_of_last (solid : ∀ c ∈ cs.getLast?, isBlank c = false) : trimEnd cs = cs := by
  rw [trimEnd_eq_reverse, trimStart_of_head (by rwa [List.head?_reverse]), List.reverse_reverse]

theorem trim_of_trimmed (trimmed : IsTrimmed cs) : trim cs = cs := by
  rw [trim, trimStart_of_head trimmed.head, trimEnd_of_last trimmed.last]

theorem trim_append_left (blank : IsBlankText front) (cs : List Char) : trim (front ++ cs) = trim cs := by
  rw [trim, trimStart_append blank, trim]

theorem trim_blankText (blank : IsBlankText cs) : trim cs = [] := by
  rw [← List.append_nil cs, trim_append_left blank]
  rfl

theorem trim_append_right (blank : IsBlankText back) (cs : List Char) : trim (cs ++ back) = trim cs := by
  obtain ⟨front, blankFront, split⟩ := trimStart_eq cs
  rw [split, List.append_assoc, trim_append_left blankFront, trim_append_left blankFront]
  cases rest : trimStart cs with
  | nil => rw [List.nil_append, trim_blankText blank]; rfl
  | cons c more =>
    have solid : ∀ d ∈ (trimStart cs).head?, isBlank d = false := head_trimStart cs
    rw [rest] at solid
    have starts : trimStart (c :: more ++ back) = c :: more ++ back := trimStart_of_head solid
    rw [trim, trim, starts, trimStart_of_head solid, trimEnd_append blank]

theorem trim_eq_iff : trim cs = core ↔ TrimsTo cs core := by
  constructor
  · rintro rfl
    obtain ⟨front, blankFront, split⟩ := trimStart_eq cs
    obtain ⟨back, blankBack, reversed⟩ := trimStart_eq (trimStart cs).reverse
    have ends : trimStart cs = trim cs ++ back.reverse := by
      rw [trim, trimEnd_eq_reverse, ← List.reverse_append, ← reversed, List.reverse_reverse]
    refine ⟨⟨front, back.reverse, blankFront, isBlankText_reverse.2 blankBack, ?_⟩, ?_, ?_⟩
    · rw [List.append_assoc, ← ends]
      exact split
    · intro c first
      apply head_trimStart cs c
      rw [ends, List.head?_append, show (trim cs).head? = some c from first]
      rfl
    · intro c last
      apply head_trimStart (trimStart cs).reverse c
      rwa [← List.getLast?_reverse]
  · rintro ⟨⟨front, back, blankFront, blankBack, rfl⟩, trimmed⟩
    rw [trim_append_right blankBack, trim_append_left blankFront, trim_of_trimmed trimmed]

theorem trim_eq_nil_iff : trim cs = [] ↔ IsBlankText cs := by
  refine ⟨fun nothing => ?_, trim_blankText⟩
  obtain ⟨⟨front, back, blankFront, blankBack, rfl⟩, -⟩ := trim_eq_iff.1 nothing
  simp only [IsBlankText, List.append_nil, List.mem_append] at blankFront blankBack ⊢
  exact fun c member => member.elim (blankFront c) (blankBack c)

theorem isTrimmed_of_solid (solid : ∀ c ∈ cs, isBlank c = false) : IsTrimmed cs :=
  ⟨fun c first => solid c (List.mem_of_head? first), fun c last => solid c (List.mem_of_getLast? last)⟩

theorem isBlank_of_isDigit {c : Char} (digit : c.isDigit = true) : isBlank c = false := by
  have bounds : 48 ≤ c.toNat ∧ c.toNat ≤ 57 := by
    simp only [Char.isDigit, ge_iff_le, Bool.and_eq_true, decide_eq_true_eq, UInt32.le_iff_toNat_le] at digit
    exact digit
  simp only [isBlank, blankRanges, List.any_cons, List.any_nil, Bool.or_false, Bool.or_eq_false_iff,
    Bool.and_eq_false_iff, decide_eq_false_iff_not]
  omega

theorem isTrimmed_digits (n : Nat) : IsTrimmed (digits n) :=
  isTrimmed_of_solid fun _ member => isBlank_of_isDigit (isDigit_of_mem_digits member)

end GpuShare.Text
