import Mathlib.Data.List.Forall2
import GpuShare.Wire.Codec
import GpuShare.Proofs.Traversal
import GpuShare.Proofs.Text.Split

/-!
Records that are written one after the other are cut apart again, if no field has a comma or a colon. They are
read one after the other too, up to the first that cannot be read.
-/

set_option autoImplicit false

namespace GpuShare.Wire

open Text

theorem not_mem_joinWith {sep other : Char} (differs : other ≠ sep) {pieces : List (List Char)}
    (absent : ∀ piece ∈ pieces, other ∉ piece) : other ∉ joinWith sep pieces := by
  induction pieces with
  | nil => exact List.not_mem_nil
  | cons piece pieces ih =>
    have later : other ∉ joinWith sep pieces :=
      ih fun piece member => absent piece (List.mem_cons_of_mem _ member)
    cases pieces with
    | nil => exact absent piece List.mem_cons_self
    | cons next others =>
      rw [joinWith_cons _ _ (List.cons_ne_nil _ _)]
      simp only [List.mem_append, List.mem_cons, not_or]
      exact ⟨absent piece List.mem_cons_self, differs, later⟩

theorem not_mem_signedDigits {sep : Char} (noDigit : sep.isDigit = false) (noSign : sep ≠ '-') (i : Int) :
    sep ∉ signedDigits i := by
  intro member
  rcases isDigit_of_mem_signedDigits member with digit | sign
  · rw [noDigit] at digit
    cases digit
  · exact noSign sign

/-- The fields of one record: two at least, and none has a comma or a colon. -/
structure AreFields (fields : List (List Char)) : Prop where
  several : 2 ≤ fields.length
  commas : ∀ field ∈ fields, ',' ∉ field
  colons : ∀ field ∈ fields, ':' ∉ field

def writeRecord (fields : List (List Char)) : List Char := joinWith ',' fields ++ [':']

variable {fields : List (List Char)} {records : List (List (List Char))}

theorem AreFields.splitOn_joinWith (are : AreFields fields) :
    splitOn ',' (joinWith ',' fields) = fields := by
  refine Text.splitOn_joinWith (fun none => ?_) are.commas
  have several := are.several
  rw [none] at several
  cases several

theorem AreFields.contains_joinWith (are : AreFields fields) :
    (joinWith ',' fields).contains ',' = true := by
  have several := are.several
  cases fields with
  | nil => cases several
  | cons first rest =>
    cases rest with
    | nil => exact absurd several (Nat.lt_irrefl 1)
    | cons second rest => simp [joinWith]

-- The records, and nothing after the last one.
theorem splitOn_writeRecords (are : ∀ fields ∈ records, AreFields fields) :
    splitOn ':' (records.flatMap writeRecord) = records.map (joinWith ',') ++ [[]] := by
  induction records with
  | nil => rfl
  | cons fields records ih =>
    obtain ⟨here, later⟩ := List.forall_mem_cons.1 are
    rw [List.flatMap_cons, writeRecord, List.append_assoc, List.singleton_append,
      splitOn_append (not_mem_joinWith (by decide) here.colons), ih later]
    rfl

theorem decodeRecords_writeRecords {α : Type} (decode : List Char → Except DecodeError α)
    (are : ∀ fields ∈ records, AreFields fields) :
    decodeRecords decode (records.flatMap writeRecord) = (records.map (joinWith ',')).mapM decode := by
  have kept : (records.map (joinWith ',')).filter (·.contains ',') = records.map (joinWith ',') := by
    refine List.filter_eq_self.2 fun record member => ?_
    obtain ⟨fields, listed, rfl⟩ := List.mem_map.1 member
    exact (are fields listed).contains_joinWith
  rw [decodeRecords, splitOn_writeRecords are, List.filter_append, kept]
  show (_ ++ []).mapM decode = _
  rw [List.append_nil]

-- Values that are read from their own records are read from all of them.
theorem decodeRecords_of_decode {α β : Type} {decode : List Char → Except DecodeError α}
    {fieldsOf : β → List (List Char)} {valueOf : β → α} {written : List β}
    (are : ∀ b ∈ written, AreFields (fieldsOf b))
    (reads : ∀ b ∈ written, decode (joinWith ',' (fieldsOf b)) = .ok (valueOf b)) :
    decodeRecords decode (written.flatMap fun b => writeRecord (fieldsOf b)) =
      .ok (written.map valueOf) := by
  have all : ∀ fields ∈ written.map fieldsOf, AreFields fields := List.forall_mem_map.2 are
  have cut := decodeRecords_writeRecords decode all
  rw [List.flatMap_map, List.map_map] at cut
  rw [cut, mapM_eq_ok, List.forall₂_map_left_iff, List.forall₂_map_right_iff, List.forall₂_same]
  exact reads

end GpuShare.Wire
