import GpuShare.Agent.MigResolver
import GpuShare.Proofs.Text.Numeral
import GpuShare.Proofs.Text.Split
import GpuShare.Proofs.Text.Trim

/-!
How references are written and read. A text denotes at most one reference: the brackets are the first opening and
the last closing one, and the dash is the last one between them, so a group may contain all of these characters.
What denotes no reference lacks something, and the first that it lacks is the reason of its refusal.
-/

set_option autoImplicit false

namespace GpuShare.Mig.Reference

open Text

variable {id : String} {reference : Reference} {flaw : Flaw} {cs device rest inner group name position : List Char}
  {number : UInt32}

def written (reference : Reference) : String :=
  reference.deviceUuid ++ "[" ++ reference.group ++ "-" ++ decimal reference.position.toNat ++ "]"

def bracketed (device inner : List Char) : List Char := device ++ '[' :: (inner ++ [']'])

def dashed (group position : List Char) : List Char := group ++ '-' :: position

def Numbers (position : List Char) (number : UInt32) : Prop :=
  ∃ numeral, TrimsTo position numeral ∧ IsUnsigned numeral number.toNat

inductive Denotes : List Char → Reference → Prop where
  | intro {device group name position : List Char} {number : UInt32} :
      device ≠ [] → '[' ∉ device → TrimsTo group name → name ≠ [] → '-' ∉ position → Numbers position number →
      Denotes (bracketed device (dashed group position)) ⟨String.ofList device, String.ofList name, number⟩

inductive Lacks : List Char → Flaw → Prop where
  | opening {cs : List Char} : '[' ∉ cs → Lacks cs .noOpening
  | closing {device rest : List Char} : '[' ∉ device → (∀ inner, inner ++ [']'] ≠ rest) →
      Lacks (device ++ '[' :: rest) .noClosing
  | dash {device inner : List Char} : '[' ∉ device → '-' ∉ inner → Lacks (bracketed device inner) .noDash
  | device {group position : List Char} : '-' ∉ position → Lacks (bracketed [] (dashed group position)) .noDevice
  | group {device group position : List Char} : device ≠ [] → '[' ∉ device → IsBlankText group → '-' ∉ position →
      Lacks (bracketed device (dashed group position)) .noGroup
  | position {device group position : List Char} : device ≠ [] → '[' ∉ device → ¬ IsBlankText group →
      '-' ∉ position → (∀ number, ¬ Numbers position number) →
      Lacks (bracketed device (dashed group position)) .badPosition

theorem numbers_iff : Numbers position number ↔ readUInt32? (trim position) = some number := by
  simp only [Numbers, ← trim_eq_iff, exists_eq_left', readUInt32?_eq_some]

/-- A text has no opening bracket, or no closing one at its end, or no dash between them, or else four parts. -/
inductive Shape : List Char → Prop where
  | unopened {cs : List Char} : '[' ∉ cs → Shape cs
  | unclosed {device rest : List Char} : '[' ∉ device → (∀ inner, inner ++ [']'] ≠ rest) →
      Shape (device ++ '[' :: rest)
  | undashed {device inner : List Char} : '[' ∉ device → '-' ∉ inner → Shape (bracketed device inner)
  | parts {device group position : List Char} : '[' ∉ device → '-' ∉ position →
      Shape (bracketed device (dashed group position))

theorem shape (cs : List Char) : Shape cs := by
  cases opened : splitFirst? '[' cs with
  | none => exact .unopened (splitFirst?_eq_none.1 opened)
  | some parts =>
    obtain ⟨device, rest⟩ := parts
    obtain ⟨rfl, plain⟩ := splitFirst?_eq_some.1 opened
    cases closed : stripLast? ']' rest with
    | none =>
      refine .unclosed plain fun inner same => ?_
      rw [stripLast?_eq_some.2 same] at closed
      cases closed
    | some inner =>
      obtain rfl := stripLast?_eq_some.1 closed
      cases cut : splitLast? '-' inner with
      | none => exact .undashed plain (splitLast?_eq_none.1 cut)
      | some parts =>
        obtain ⟨group, position⟩ := parts
        obtain ⟨rfl, dashless⟩ := splitLast?_eq_some.1 cut
        exact .parts plain dashless

/-! ## What is read from each shape -/

section Shapes

theorem parse_unopened (unopened : '[' ∉ id.toList) : parse id = .error .noOpening := by
  rw [parse, splitFirst?_eq_none.2 unopened]
  rfl

theorem parse_unclosed (is : id.toList = device ++ '[' :: rest) (plain : '[' ∉ device)
    (unclosed : ∀ inner, inner ++ [']'] ≠ rest) : parse id = .error .noClosing := by
  have strips : stripLast? ']' rest = none :=
    Option.eq_none_iff_forall_ne_some.2 fun inner strips => unclosed inner (stripLast?_eq_some.1 strips)
  rw [parse, is, splitFirst?_append plain]
  simp only [orFlaw, bind, Except.bind, strips]

theorem parse_bracketed (is : id.toList = bracketed device inner) (plain : '[' ∉ device) :
    parse id = do
      let (group, position) ← orFlaw .noDash (splitLast? '-' inner)
      if device.isEmpty then throw .noDevice
      if (trim group).isEmpty then throw .noGroup
      let position ← orFlaw .badPosition (readUInt32? (trim position))
      return ⟨String.ofList device, String.ofList (trim group), position⟩ := by
  have strips : stripLast? ']' (inner ++ [']']) = some inner := stripLast?_eq_some.2 rfl
  rw [parse, is, bracketed, splitFirst?_append plain]
  simp only [orFlaw, bind, Except.bind, strips]

theorem parse_undashed (is : id.toList = bracketed device inner) (plain : '[' ∉ device) (undashed : '-' ∉ inner) :
    parse id = .error .noDash := by
  rw [parse_bracketed is plain, splitLast?_eq_none.2 undashed]
  rfl

def ofParts (device group position : List Char) : Except Flaw Reference :=
  if device = [] then .error .noDevice
  else if IsBlankText group then .error .noGroup
  else (orFlaw .badPosition (readUInt32? (trim position))).map fun number =>
    ⟨String.ofList device, String.ofList (trim group), number⟩

theorem parse_parts (is : id.toList = bracketed device (dashed group position)) (plain : '[' ∉ device)
    (dashless : '-' ∉ position) : parse id = ofParts device group position := by
  rw [parse_bracketed is plain, dashed, splitLast?_append dashless, ofParts]
  simp only [orFlaw, bind, Except.bind, List.isEmpty_iff, trim_eq_nil_iff]
  by_cases nameless : device = []
  · rw [if_pos nameless, if_pos nameless]
    rfl
  · rw [if_neg nameless, if_neg nameless]
    split_ifs
    · rfl
    · cases readUInt32? (trim position) <;> rfl

theorem ofParts_eq_ok : ofParts device group position = .ok reference ↔ device ≠ [] ∧
    ∃ name, TrimsTo group name ∧ name ≠ [] ∧ ∃ number, Numbers position number ∧
      ⟨String.ofList device, String.ofList name, number⟩ = reference := by
  unfold ofParts
  simp only [← trim_eq_iff, exists_eq_left', numbers_iff, ne_eq, trim_eq_nil_iff]
  split_ifs with nameless groupless
  · simp [nameless]
  · simp [groupless]
  · cases readUInt32? (trim position) <;> simp [orFlaw, Except.map, nameless, groupless]

theorem ofParts_eq_error : ofParts device group position = .error flaw ↔
    device = [] ∧ flaw = .noDevice ∨ device ≠ [] ∧ IsBlankText group ∧ flaw = .noGroup ∨
      device ≠ [] ∧ ¬ IsBlankText group ∧ (∀ number, ¬ Numbers position number) ∧ flaw = .badPosition := by
  unfold ofParts
  simp only [numbers_iff]
  split_ifs with nameless groupless
  · simp [nameless, eq_comm]
  · simp [nameless, groupless, eq_comm]
  · cases readUInt32? (trim position) <;> simp [orFlaw, Except.map, nameless, groupless, eq_comm]

end Shapes

theorem parse_eq_ok_iff : parse id = .ok reference ↔ Denotes id.toList reference := by
  constructor
  · intro reads
    generalize is : id.toList = cs
    cases shape cs with
    | unopened unopened =>
      rw [parse_unopened (is ▸ unopened)] at reads
      cases reads
    | unclosed plain unclosed =>
      rw [parse_unclosed is plain unclosed] at reads
      cases reads
    | undashed plain undashed =>
      rw [parse_undashed is plain undashed] at reads
      cases reads
    | parts plain dashless =>
      rw [parse_parts is plain dashless, ofParts_eq_ok] at reads
      obtain ⟨some_device, name, trims, some_name, number, numbers, rfl⟩ := reads
      exact .intro some_device plain trims some_name dashless numbers
  · intro denotes
    generalize is : id.toList = cs at denotes
    cases denotes with
    | intro some_device plain trims some_name dashless numbers =>
      rw [parse_parts is plain dashless, ofParts_eq_ok]
      exact ⟨some_device, _, trims, some_name, _, numbers, rfl⟩

theorem parse_eq_error_iff : parse id = .error flaw ↔ Lacks id.toList flaw := by
  constructor
  · intro refuses
    generalize is : id.toList = cs
    cases shape cs with
    | unopened unopened =>
      rw [parse_unopened (is ▸ unopened)] at refuses
      cases refuses
      exact .opening unopened
    | unclosed plain unclosed =>
      rw [parse_unclosed is plain unclosed] at refuses
      cases refuses
      exact .closing plain unclosed
    | undashed plain undashed =>
      rw [parse_undashed is plain undashed] at refuses
      cases refuses
      exact .dash plain undashed
    | parts plain dashless =>
      rw [parse_parts is plain dashless, ofParts_eq_error] at refuses
      rcases refuses with ⟨rfl, rfl⟩ | ⟨some_device, groupless, rfl⟩ | ⟨some_device, some_group, numberless, rfl⟩
      · exact .device dashless
      · exact .group some_device plain groupless dashless
      · exact .position some_device plain some_group dashless numberless
  · intro lacks
    generalize is : id.toList = cs at lacks
    cases lacks with
    | opening unopened => exact parse_unopened (is ▸ unopened)
    | closing plain unclosed => exact parse_unclosed is plain unclosed
    | dash plain undashed => exact parse_undashed is plain undashed
    | device dashless =>
      rw [parse_parts is List.not_mem_nil dashless, ofParts_eq_error]
      exact .inl ⟨rfl, rfl⟩
    | group some_device plain groupless dashless =>
      rw [parse_parts is plain dashless, ofParts_eq_error]
      exact .inr (.inl ⟨some_device, groupless, rfl⟩)
    | position some_device plain some_group dashless numberless =>
      rw [parse_parts is plain dashless, ofParts_eq_error]
      exact .inr (.inr ⟨some_device, some_group, numberless, rfl⟩)

theorem numbers_digits (number : UInt32) : Numbers (digits number.toNat) number := by
  rw [numbers_iff, trim_of_trimmed (isTrimmed_digits _), readUInt32?_digits]

theorem denotes_written (some_device : reference.deviceUuid ≠ "") (plain : '[' ∉ reference.deviceUuid.toList)
    (some_group : reference.group ≠ "") (trimmed : IsTrimmed reference.group.toList) :
    Denotes reference.written.toList reference := by
  obtain ⟨device, group, position⟩ := reference
  have parts : (written ⟨device, group, position⟩).toList =
      bracketed device.toList (dashed group.toList (digits position.toNat)) := by
    simp [written, bracketed, dashed, decimal, String.toList_append]
  have trims : TrimsTo group.toList group.toList := trim_eq_iff.1 (trim_of_trimmed trimmed)
  -- A numeral has digits only, so the dash before it is the last one.
  have dashless : '-' ∉ digits position.toNat := not_mem_digits (by decide) _
  have denotes := Denotes.intro (mt String.toList_eq_nil_iff.1 some_device) plain trims
    (mt String.toList_eq_nil_iff.1 some_group) dashless (numbers_digits position)
  rwa [← parts, String.ofList_toList, String.ofList_toList] at denotes

/-- The plain text of a reference is read as that reference. In general a reference is read from the texts that
denote it and from no others. Every other text is refused for what it lacks first; a resolver that is given it as
a reference refuses it as invalid, asks for nothing and remembers what it did. -/
theorem parse_reads_references :
    (∀ reference : Reference, reference.deviceUuid ≠ "" → '[' ∉ reference.deviceUuid.toList →
      reference.group ≠ "" → IsTrimmed reference.group.toList → parse reference.written = .ok reference) ∧
    (∀ id reference, parse id = .ok reference ↔ Denotes id.toList reference) ∧
    ∀ id, (∀ reference, ¬ Denotes id.toList reference) → ∃ flaw, Lacks id.toList flaw ∧ parse id = .error flaw ∧
      (isEncoded id = true → ∀ allowed remembered, Agent.MigResolver.resolve allowed remembered id =
        pure (.error (.invalidReference id flaw), remembered)) := by
  refine ⟨fun reference some_device plain some_group trimmed => ?_, fun id reference => parse_eq_ok_iff, ?_⟩
  · exact parse_eq_ok_iff.2 (denotes_written some_device plain some_group trimmed)
  · intro id none
    cases parsed : parse id with
    | ok reference => exact absurd (parse_eq_ok_iff.1 parsed) (none reference)
    | error flaw =>
      refine ⟨flaw, parse_eq_error_iff.1 parsed, rfl, fun encoded allowed remembered => ?_⟩
      rw [Agent.MigResolver.resolve, if_pos encoded, parsed]

-- A group that contains dashes and brackets, a position in another way than the plain one, and a missing dash.
theorem parse_reads_references_nested :
    written ⟨"GPU-1", "a-b[c]", 7⟩ = "GPU-1[a-b[c]-7]" ∧
    parse (written ⟨"GPU-1", "a-b[c]", 7⟩) = .ok ⟨"GPU-1", "a-b[c]", 7⟩ ∧
    Denotes "GPU-1[ a-b[c] - +07]".toList ⟨"GPU-1", "a-b[c]", 7⟩ ∧
    ∃ flaw, Lacks "GPU-1[a]".toList flaw ∧ parse "GPU-1[a]" = .error flaw := by
  have undashed : parse "GPU-1[a]" = .error .noDash := rfl
  have denotesNone (reference : Reference) : ¬ Denotes "GPU-1[a]".toList reference := by
    intro denotes
    rw [(parse_reads_references.2.1 _ _).2 denotes] at undashed
    cases undashed
  refine ⟨by decide +kernel, ?_, ?_, ?_⟩
  · exact parse_reads_references.1 _ (by decide) (by decide) (by decide) (by decide)
  · exact (parse_reads_references.2.1 _ _).1 rfl
  · obtain ⟨flaw, lacks, refused, -⟩ := parse_reads_references.2.2 _ denotesNone
    exact ⟨flaw, lacks, refused⟩

end GpuShare.Mig.Reference
