import GpuShare.Proofs.Text.Numeral
import GpuShare.Proofs.Wire.Records

/-!
The grammar of grants. Semicolons stand between the texts of containers, and colons between records; what has
no comma is no record. A record says a grant if it has four fields and the last two are numerals of the 32-bit
range. Main statement: a text is read iff each of its records says a grant, and otherwise it is refused for the
first that does not.
-/

set_option autoImplicit false

namespace GpuShare.Wire

open Text

namespace Grant

variable {record : List Char} {grant : Grant} {error : DecodeError}

/-- A record says a grant: its names, and numerals for its memory and its cores. -/
def Says (record : List Char) (grant : Grant) : Prop :=
  ∃ memory cores, ArePieces ',' record [grant.uuid.toList, grant.deviceType.toList, memory, cores] ∧
    IsSigned memory grant.memory.toInt ∧ IsSigned cores grant.cores.toInt

def IsNoQuota (text : List Char) : Prop := ∀ n : Int32, ¬ IsSigned text n.toInt

/-- What is wrong with a record: the number of its fields, or else the memory, or else the cores. -/
inductive IsFault (record : List Char) : DecodeError → Prop where
  | count {fields : List (List Char)} : ArePieces ',' record fields → fields.length ≠ 4 →
      IsFault record (.fieldCount (String.ofList record) 4 fields.length)
  | memory {uuid deviceType memory cores : List Char} :
      ArePieces ',' record [uuid, deviceType, memory, cores] → IsNoQuota memory →
      IsFault record (.invalidField (String.ofList record) "usedmem" (String.ofList memory))
  | cores {uuid deviceType memory cores : List Char} {quota : Int32} :
      ArePieces ',' record [uuid, deviceType, memory, cores] → IsSigned memory quota.toInt →
      IsNoQuota cores →
      IsFault record (.invalidField (String.ofList record) "usedcores" (String.ofList cores))

theorem readInt32?_eq_none {text : List Char} : readInt32? text = none ↔ IsNoQuota text := by
  simp only [IsNoQuota, ← readInt32?_eq_some, Option.eq_none_iff_forall_ne_some]

section Reading

variable {α : Type} {read? : List Char → Option α} {field : String} {value : List Char}

theorem readField_eq_ok {a : α} : readField read? record field value = .ok a ↔ read? value = some a := by
  unfold readField
  cases read? value <;> simp

theorem readField_eq_error : readField read? record field value = .error error ↔
    read? value = none ∧ error = .invalidField (String.ofList record) field (String.ofList value) := by
  unfold readField
  cases read? value <;> simp [eq_comm]

end Reading

theorem decode_eq_ok : decode record = .ok grant ↔ Says record grant := by
  constructor
  · intro reads
    rw [decode] at reads
    split at reads
    · next uuid deviceType memory cores cut =>
      simp only [bind_eq_ok, readField_eq_ok, readInt32?_eq_some] at reads
      obtain ⟨quota, isMemory, share, isCores, same⟩ := reads
      cases same
      refine ⟨memory, cores, arePieces_iff.2 ?_, isMemory, isCores⟩
      rw [cut, String.toList_ofList, String.toList_ofList]
    · cases reads
  · rintro ⟨memory, cores, pieces, isMemory, isCores⟩
    rw [decode, arePieces_iff.1 pieces]
    simp only [bind_eq_ok, readField_eq_ok, readInt32?_eq_some]
    refine ⟨_, isMemory, _, isCores, ?_⟩
    rw [String.ofList_toList, String.ofList_toList]
    rfl

theorem decode_eq_error : decode record = .error error ↔ IsFault record error := by
  constructor
  · intro fails
    rw [decode] at fails
    split at fails
    · next uuid deviceType memory cores cut =>
      simp only [bind_eq_error, readField_eq_ok, readField_eq_error, readInt32?_eq_some,
        readInt32?_eq_none] at fails
      rcases fails with ⟨bad, rfl⟩ | ⟨quota, isMemory, ⟨bad, rfl⟩ | ⟨_, _, done⟩⟩
      · exact .memory (arePieces_iff.2 cut) bad
      · exact .cores (arePieces_iff.2 cut) isMemory bad
      · cases done
    · next other =>
      cases fails
      refine .count (arePieces_iff.2 rfl) fun four => ?_
      obtain ⟨uuid, deviceType, memory, cores, cut⟩ := List.length_eq_four.1 four
      exact other uuid deviceType memory cores cut
  · intro fault
    cases fault with
    | count pieces other =>
      rw [decode, arePieces_iff.1 pieces]
      split
      · exact absurd rfl other
      · rfl
    | memory pieces bad =>
      rw [decode, arePieces_iff.1 pieces]
      simp only [bind_eq_error, readField_eq_error, readInt32?_eq_none]
      exact .inl ⟨bad, trivial⟩
    | cores pieces isMemory bad =>
      rw [decode, arePieces_iff.1 pieces]
      simp only [bind_eq_error, readField_eq_ok, readField_eq_error, readInt32?_eq_some, readInt32?_eq_none]
      exact .inr ⟨_, isMemory, .inl ⟨bad, trivial⟩⟩

end Grant

def AreRecords (text : List Char) (records : List (List Char)) : Prop :=
  ∃ pieces, ArePieces ':' text pieces ∧ records = pieces.filter (',' ∈ ·)

def cutRecords (text : List Char) : List (List Char) := (splitOn ':' text).filter (·.contains ',')

theorem areRecords_iff {text : List Char} {records : List (List Char)} :
    AreRecords text records ↔ cutRecords text = records := by
  simp [AreRecords, arePieces_iff, cutRecords, eq_comm]

/-- The texts of the containers; an empty text has none. -/
def AreParts (text : List Char) (parts : List (List Char)) : Prop :=
  text = [] ∧ parts = [] ∨ text ≠ [] ∧ ArePieces ';' text parts

namespace Grants

def Lists (text : String) (containers : List (List (List Char))) : Prop :=
  ∃ parts, AreParts text.toList parts ∧ List.Forall₂ AreRecords parts containers

def recordsOf (text : String) : List (List (List Char)) :=
  (if text.toList = [] then [] else splitOn ';' text.toList).map cutRecords

theorem lists_iff {text : String} {containers : List (List (List Char))} :
    Lists text containers ↔ containers = recordsOf text := by
  have parts_iff (parts : List (List Char)) : AreParts text.toList parts ↔
      parts = if text.toList = [] then [] else splitOn ';' text.toList := by
    unfold AreParts
    split
    · next empty => simp [empty]
    · next some_text => simp [some_text, arePieces_iff, eq_comm]
  have records_eq : AreRecords = fun part records => cutRecords part = records := by
    funext part records
    exact propext areRecords_iff
  simp only [Lists, parts_iff, exists_eq_left, records_eq]
  rw [← List.forall₂_map_left_iff (R := Eq), List.forall₂_eq_eq_eq]
  exact eq_comm

theorem decode_eq_mapM (text : String) : decode text = (recordsOf text).mapM (List.mapM Grant.decode) := by
  unfold decode recordsOf
  rw [List.mapM_map]
  cases text.toList with
  | nil => rfl
  | cons c cs => rfl

theorem decode_eq_ok {text : String} {grants : Grants} :
    decode text = .ok grants ↔ List.Forall₂ (List.Forall₂ Grant.Says) (recordsOf text) grants := by
  simp only [decode_eq_mapM, mapM_eq_ok, Grant.decode_eq_ok]

-- The records of all containers are read one after the other, so the first fault among them counts.
theorem decode_eq_error {text : String} {error : DecodeError} :
    decode text = .error error ↔ ∃ before record after, (recordsOf text).flatten = before ++ record :: after ∧
      (∀ earlier ∈ before, ∃ grant, Grant.Says earlier grant) ∧ Grant.IsFault record error := by
  have flat : decode text = .error error ↔ (recordsOf text).flatten.mapM Grant.decode = .error error := by
    rw [decode_eq_mapM, mapM_flatten]
    cases (recordsOf text).mapM (List.mapM Grant.decode) with
    | error e => simp [Except.map]
    | ok grants => exact ⟨nofun, nofun⟩
  simp only [flat, mapM_eq_error, Grant.decode_eq_ok, Grant.decode_eq_error]

theorem isOk_iff {text : String} : (∃ grants, decode text = .ok grants) ↔
    ∀ container ∈ recordsOf text, ∀ record ∈ container, ∃ grant, Grant.Says record grant := by
  simp only [decode_eq_mapM, exists_mapM_eq_ok, Grant.decode_eq_ok]

/-- A text lists records in one way. It is read iff each record says a grant, and then gives what they say, in
order and one list for each container. Otherwise it is refused for what is wrong with the first record that
says none. -/
theorem decode_follows_grammar (text : String) : ∃ containers,
    (∀ other, Lists text other ↔ other = containers) ∧
    ((∃ grants, decode text = .ok grants) ↔
      ∀ container ∈ containers, ∀ record ∈ container, ∃ grant, Grant.Says record grant) ∧
    (∀ grants, decode text = .ok grants ↔ List.Forall₂ (List.Forall₂ Grant.Says) containers grants) ∧
    ∀ error, decode text = .error error ↔ ∃ before record after,
      containers.flatten = before ++ record :: after ∧
      (∀ earlier ∈ before, ∃ grant, Grant.Says earlier grant) ∧ Grant.IsFault record error :=
  ⟨recordsOf text, fun _ => lists_iff, isOk_iff, fun _ => decode_eq_ok, fun _ => decode_eq_error⟩

end Grants

end GpuShare.Wire
