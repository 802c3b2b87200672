import GpuShare.Text.Split
import GpuShare.Text.Decimal

/-! Pieces that are joined with a separator which none of them contains are cut apart again, and what
is cut apart contains no separator. Numbers contain no separators but signs. -/

set_option autoImplicit false

namespace GpuShare.Text

variable {sep : Char}

theorem splitOn_of_not_mem {cs : List Char} (absent : sep ∉ cs) : splitOn sep cs = [cs] := by
  induction cs with
  | nil => rfl
  | cons c cs ih =>
    rw [List.mem_cons, not_or] at absent
    rw [splitOn, if_neg (Ne.symm absent.1), ih absent.2]

theorem splitOn_append_cons (front back : List Char) :
    splitOn sep (front ++ sep :: back) = splitOn sep front ++ splitOn sep back := by
  induction front with
  | nil => simp [splitOn]
  | cons c front ih =>
    rw [List.cons_append, splitOn, splitOn, ih]
    split
    · rfl
    · cases cut : splitOn sep front with
      | nil => exact absurd cut (splitOn_ne_nil sep front)
      | cons piece pieces => rfl

theorem splitOn_append {front : List Char} (absent : sep ∉ front) (back : List Char) :
    splitOn sep (front ++ sep :: back) = front :: splitOn sep back := by
  rw [splitOn_append_cons, splitOn_of_not_mem absent]
  rfl

theorem splitFirst?_append {front : List Char} (absent : sep ∉ front) (back : List Char) :
    splitFirst? sep (front ++ sep :: back) = some (front, back) := by
  induction front with
  | nil => simp [splitFirst?]
  | cons c front ih =>
    rw [List.mem_cons, not_or] at absent
    rw [List.cons_append, splitFirst?, if_neg (Ne.symm absent.1), ih absent.2]
    rfl

theorem splitFirst?_eq_some {cs front back : List Char} :
    splitFirst? sep cs = some (front, back) ↔ front ++ sep :: back = cs ∧ sep ∉ front := by
  constructor
  · intro cut
    induction cs generalizing front with
    | nil => cases cut
    | cons c cs ih =>
      rw [splitFirst?] at cut
      split at cut
      · next same =>
        cases cut
        exact ⟨by rw [same]; rfl, List.not_mem_nil⟩
      · next other =>
        obtain ⟨⟨first, rest⟩, later, same⟩ := Option.map_eq_some_iff.1 cut
        cases same
        obtain ⟨joined, absent⟩ := ih later
        exact ⟨by rw [← joined]; rfl, List.not_mem_cons_of_ne_of_not_mem (Ne.symm other) absent⟩
  · rintro ⟨rfl, absent⟩
    exact splitFirst?_append absent back

theorem splitFirst?_eq_none {cs : List Char} : splitFirst? sep cs = none ↔ sep ∉ cs := by
  induction cs with
  | nil => simp [splitFirst?]
  | cons c cs ih =>
    rw [splitFirst?, List.mem_cons, not_or, ← ih]
    by_cases same : c = sep
    · simp [same]
    · simp [same, Ne.symm same]

theorem splitLast?_eq_none {cs : List Char} : splitLast? sep cs = none ↔ sep ∉ cs := by
  induction cs with
  | nil => simp [splitLast?]
  | cons c cs ih =>
    rw [splitLast?, List.mem_cons, not_or, ← ih]
    cases splitLast? sep cs with
    | some parts => simp
    | none => simp [eq_comm]

theorem splitLast?_append {back : List Char} (absent : sep ∉ back) (front : List Char) :
    splitLast? sep (front ++ sep :: back) = some (front, back) := by
  induction front with
  | nil => simp [splitLast?, splitLast?_eq_none.2 absent]
  | cons c front ih => simp [splitLast?, ih]

theorem splitLast?_eq_some {cs front back : List Char} :
    splitLast? sep cs = some (front, back) ↔ front ++ sep :: back = cs ∧ sep ∉ back := by
  constructor
  · intro cut
    induction cs generalizing front with
    | nil => cases cut
    | cons c cs ih =>
      rw [splitLast?] at cut
      split at cut
      · next parts later =>
        cases cut
        obtain ⟨joined, absent⟩ := ih later
        exact ⟨by rw [← joined]; rfl, absent⟩
      · next nothing =>
        split at cut
        · next same =>
          cases cut
          exact ⟨by rw [same]; rfl, splitLast?_eq_none.1 nothing⟩
        · cases cut
  · rintro ⟨rfl, absent⟩
    exact splitLast?_append absent front

theorem stripLast?_eq_some {last : Char} {cs front : List Char} :
    stripLast? last cs = some front ↔ front ++ [last] = cs := by
  induction cs generalizing front with
  | nil => simp [stripLast?]
  | cons c cs ih =>
    cases cs with
    | nil =>
      rw [stripLast?]
      cases front with
      | nil => simp [eq_comm]
      | cons e front => simp
    | cons d cs =>
      cases front with
      | nil => simp [stripLast?]
      | cons e front =>
        rw [stripLast?, Option.map_eq_some_iff, List.cons_append, List.cons.injEq]
        constructor
        · rintro ⟨inner, strips, same⟩
          cases same
          exact ⟨rfl, ih.1 strips⟩
        · rintro ⟨rfl, ends⟩
          exact ⟨front, ih.2 ends, rfl⟩
theorem splitOn_joinWith {pieces : List (List Char)} (some_piece : pieces ≠ [])
    (absent : ∀ piece ∈ pieces, sep ∉ piece) : splitOn sep (joinWith sep pieces) = pieces := by
  induction pieces with
  | nil => exact absurd rfl some_piece
  | cons piece pieces ih =>
    have here : sep ∉ piece := absent piece List.mem_cons_self
    cases pieces with
    | nil => exact splitOn_of_not_mem here
    | cons next others =>
      rw [joinWith_cons _ _ (List.cons_ne_nil _ _), splitOn_append here, ih (List.cons_ne_nil _ _)]
      exact fun other member => absent other (List.mem_cons_of_mem _ member)

-- A piece has no separator, and only characters of the text.
theorem mem_piece {cs piece : List Char} {c : Char} (cut : piece ∈ splitOn sep cs)
    (member : c ∈ piece) : c ≠ sep ∧ c ∈ cs := by
  induction cs generalizing piece with
  | nil =>
    rw [splitOn, List.mem_singleton] at cut
    subst cut
    cases member
  | cons d cs ih =>
    rw [splitOn] at cut
    split at cut
    · rcases List.mem_cons.1 cut with rfl | later
      · cases member
      · obtain ⟨differs, inside⟩ := ih later member
        exact ⟨differs, List.mem_cons_of_mem _ inside⟩
    · next other =>
      split at cut
      · next nothing => exact absurd nothing (splitOn_ne_nil sep cs)
      · next first others pieces =>
        rcases List.mem_cons.1 cut with rfl | later
        · rcases List.mem_cons.1 member with rfl | inside
          · exact ⟨other, List.mem_cons_self⟩
          · obtain ⟨differs, inside⟩ := ih (pieces ▸ List.mem_cons_self) inside
            exact ⟨differs, List.mem_cons_of_mem _ inside⟩
        · obtain ⟨differs, inside⟩ := ih (pieces ▸ List.mem_cons_of_mem _ later) member
          exact ⟨differs, List.mem_cons_of_mem _ inside⟩

/-- The pieces of a text: a separator stands between them, and in none of them. -/
structure ArePieces (sep : Char) (cs : List Char) (pieces : List (List Char)) : Prop where
  some_piece : pieces ≠ []
  joined : joinWith sep pieces = cs
  absent : ∀ piece ∈ pieces, sep ∉ piece

-- A text has pieces in one way, and splitting finds it.
theorem arePieces_iff {cs : List Char} {pieces : List (List Char)} :
    ArePieces sep cs pieces ↔ splitOn sep cs = pieces := by
  constructor
  · rintro ⟨some_piece, rfl, absent⟩
    exact splitOn_joinWith some_piece absent
  · rintro rfl
    exact ⟨splitOn_ne_nil sep cs, joinWith_splitOn sep cs,
      fun piece cut inside => (mem_piece cut inside).1 rfl⟩

theorem stripStart?_eq_some {marker cs rest : List Char} :
    stripStart? marker cs = some rest ↔ marker ++ rest = cs := by
  induction marker generalizing cs with
  | nil => simp [stripStart?, eq_comm]
  | cons m marker ih =>
    cases cs with
    | nil => simp [stripStart?]
    | cons c cs =>
      rw [stripStart?]
      split
      · next same => simp [ih, same]
      · next differs => simp [differs]

theorem isSome_stripStart? {marker cs : List Char} : (stripStart? marker cs).isSome = true ↔ marker <+: cs := by
  simp [Option.isSome_iff_exists, stripStart?_eq_some, List.IsPrefix]

-- A marker occurs where a part of the text starts with it.
theorem occursIn_iff {marker cs : List Char} : occursIn marker cs = true ↔ marker <:+: cs := by
  unfold occursIn
  induction cs with
  | nil => rw [afterFirst?, isSome_stripStart?, List.prefix_nil, List.infix_nil]
  | cons c cs ih =>
    rw [List.infix_cons_iff, ← isSome_stripStart?, ← ih, afterFirst?]
    cases stripStart? marker (c :: cs) with
    | some rest => simp
    | none => simp

theorem isDigit_digitChar : ∀ d < 10, (digitChar d).isDigit = true := by decide

theorem isDigit_of_mem_digits {n : Nat} {c : Char} (member : c ∈ digits n) : c.isDigit = true := by
  induction n using Nat.strongRecOn with
  | ind n ih =>
    rw [digits] at member
    split at member
    · next small =>
      rw [List.mem_singleton] at member
      rw [member]
      exact isDigit_digitChar n small
    · next large =>
      rcases List.mem_append.1 member with front | last
      · exact ih (n / 10) (by omega) front
      · rw [List.mem_singleton] at last
        rw [last]
        exact isDigit_digitChar (n % 10) (Nat.mod_lt n (by decide))

theorem not_mem_digits {c : Char} (other : c.isDigit = false) (n : Nat) : c ∉ digits n := by
  intro member
  rw [isDigit_of_mem_digits member] at other
  cases other

theorem isDigit_of_mem_signedDigits {i : Int} {c : Char} (member : c ∈ signedDigits i) :
    c.isDigit = true ∨ c = '-' := by
  rw [signedDigits] at member
  split at member
  · rcases List.mem_cons.1 member with sign | digit
    · exact .inr sign
    · exact .inl (isDigit_of_mem_digits digit)
  · exact .inl (isDigit_of_mem_digits member)

theorem readSigned?_digits (n : Nat) : readSigned? (digits n) = some (n : Int) := by
  have read := readNat?_digits n
  cases written : digits n with
  | nil => exact absurd written (digits_ne_nil n)
  | cons c cs =>
    have digit : c.isDigit = true := isDigit_of_mem_digits (written ▸ List.mem_cons_self)
    rw [written] at read
    have unsigned : readSigned? (c :: cs) = (readNat? (c :: cs)).map fun n => (n : Int) := by
      unfold readSigned?
      split
      · next same => cases same; exact absurd digit (by decide)
      · next same => cases same; exact absurd digit (by decide)
      · rfl
    rw [unsigned, read]
    rfl

theorem readSigned?_signedDigits (i : Int) : readSigned? (signedDigits i) = some i := by
  rw [signedDigits]
  split
  · next negative =>
    rw [readSigned?, readNat?_digits]
    show some (-(i.natAbs : Int)) = some i
    congr 1
    omega
  · next natural =>
    rw [readSigned?_digits]
    congr 1
    omega

theorem readInt32?_signedDigits (n : Int32) : readInt32? (signedDigits n.toInt) = some n := by
  have low : -2147483648 ≤ n.toInt := n.le_toInt
  have high : n.toInt < 2147483648 := n.toInt_lt
  rw [readInt32?, readSigned?_signedDigits, Option.bind_some, if_pos ⟨low, by omega⟩]
  rw [Int32.ofInt_toInt]

end GpuShare.Text
