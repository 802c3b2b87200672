import GpuShare.Proofs.Wire.Records

/-! Adverts that are written are read back, also by older publishers, who leave out the mode. -/

set_option autoImplicit false

namespace GpuShare.Wire

open Text

def IsField (text : String) : Prop := ',' ∉ text.toList ∧ ':' ∉ text.toList

instance (text : String) : Decidable (IsField text) := inferInstanceAs (Decidable (_ ∧ _))

namespace Advert

structure HasFields (advert : Advert) : Prop where
  id : IsField advert.id
  deviceType : IsField advert.deviceType
  mode : IsField advert.mode

/-- Who writes an advert. An older publisher gives no mode. -/
inductive Publisher where
  | current
  | older
  deriving Repr, DecidableEq

namespace Publisher

def encode : Publisher → Advert → List Char
  | current, advert => advert.encode
  | older, advert =>
    advert.id.toList ++ ',' :: signedDigits advert.count.toInt ++ ',' ::
      signedDigits advert.memory.toInt ++ ',' :: advert.deviceType.toList ++ ',' ::
      healthText advert.healthy ++ [':']

def told : Publisher → Advert → Advert
  | current, advert => advert
  | older, advert => { advert with mode := "" }

def commonFields (advert : Advert) : List (List Char) :=
  [advert.id.toList, signedDigits advert.count.toInt, signedDigits advert.memory.toInt,
    advert.deviceType.toList, healthText advert.healthy]

def fields : Publisher → Advert → List (List Char)
  | current, advert => commonFields advert ++ [advert.mode.toList]
  | older, advert => commonFields advert

theorem encode_eq (publisher : Publisher) (advert : Advert) :
    publisher.encode advert = writeRecord (publisher.fields advert) := by
  cases publisher with
  | current => simp [encode, Advert.encode, writeRecord, fields, commonFields, joinWith]
  | older => simp [encode, writeRecord, fields, commonFields, joinWith]

end Publisher

variable {advert : Advert}

theorem not_mem_healthText {sep : Char} (separates : sep = ',' ∨ sep = ':') (healthy : Bool) :
    sep ∉ healthText healthy := by
  rcases separates with rfl | rfl <;> cases healthy <;> decide

theorem readHealth?_healthText (healthy : Bool) : readHealth? (healthText healthy) = some healthy := by
  cases healthy <;> decide

theorem HasFields.not_mem (has : advert.HasFields) (publisher : Publisher) {sep : Char}
    (separates : sep = ',' ∨ sep = ':') : ∀ field ∈ publisher.fields advert, sep ∉ field := by
  have plain : ∀ text : String, IsField text → sep ∉ text.toList := by
    rintro text ⟨comma, colon⟩
    rcases separates with rfl | rfl
    · exact comma
    · exact colon
  have number : ∀ i, sep ∉ signedDigits i := by
    rcases separates with rfl | rfl
    · exact not_mem_signedDigits (by decide) (by decide)
    · exact not_mem_signedDigits (by decide) (by decide)
  have common : ∀ field ∈ Publisher.commonFields advert, sep ∉ field := by
    simp only [Publisher.commonFields, List.forall_mem_cons]
    exact ⟨plain _ has.id, number _, number _, plain _ has.deviceType,
      not_mem_healthText separates advert.healthy, nofun⟩
  cases publisher with
  | current => exact List.forall_mem_append.2 ⟨common, List.forall_mem_singleton.2 (plain _ has.mode)⟩
  | older => exact common

theorem HasFields.areFields (has : advert.HasFields) (publisher : Publisher) :
    AreFields (publisher.fields advert) := by
  refine ⟨?_, has.not_mem publisher (.inl rfl), has.not_mem publisher (.inr rfl)⟩
  cases publisher with
  | current => exact Nat.le_add_left 2 4
  | older => exact Nat.le_add_left 2 3

theorem HasFields.decode_fields (has : advert.HasFields) (publisher : Publisher) :
    decode (joinWith ',' (publisher.fields advert)) = .ok (publisher.told advert) := by
  rw [decode, (has.areFields publisher).splitOn_joinWith]
  cases publisher with
  | current =>
    simp only [Publisher.fields, Publisher.commonFields, List.cons_append, List.nil_append, readField,
      readInt32?_signedDigits, readHealth?_healthText, String.ofList_toList]
    rfl
  | older =>
    simp only [Publisher.fields, Publisher.commonFields, readField, readInt32?_signedDigits,
      readHealth?_healthText, String.ofList_toList]
    rfl

theorem decodeAll_written {written : List (Publisher × Advert)} (plain : ∀ record ∈ written, record.2.HasFields) :
    decodeAll (String.ofList (written.flatMap fun record => record.1.encode record.2)) =
      .ok (written.map fun record => record.1.told record.2) := by
  rw [decodeAll, String.toList_ofList]
  simp only [Publisher.encode_eq]
  exact decodeRecords_of_decode (fun record listed => (plain record listed).areFields record.1)
    fun record listed => (plain record listed).decode_fields record.1

-- All are written by current publishers.
theorem decodeAll_encodeAll {adverts : List Advert} (plain : ∀ advert ∈ adverts, advert.HasFields) :
    decodeAll (encodeAll adverts) = .ok adverts := by
  have each : ∀ record ∈ adverts.map fun advert => (Publisher.current, advert), record.2.HasFields :=
    List.forall_mem_map.2 plain
  have all := decodeAll_written each
  rw [List.flatMap_map, List.map_map] at all
  exact all.trans (congrArg Except.ok (List.map_id adverts))

/-- All adverts of a node are read back as they were written. Those that older publishers wrote, whichever
these are, are read back without their mode, and nothing else is changed. -/
theorem adverts_roundTrip :
    (∀ adverts : List Advert, (∀ advert ∈ adverts, advert.HasFields) →
      decodeAll (encodeAll adverts) = .ok adverts) ∧
    ∀ written : List (Publisher × Advert), (∀ record ∈ written, record.2.HasFields) →
      decodeAll (String.ofList (written.flatMap fun record => record.1.encode record.2)) =
        .ok (written.map fun record => record.1.told record.2) :=
  ⟨fun _ => decodeAll_encodeAll, fun _ => decodeAll_written⟩

/-- Numbers at the ends of their range, empty texts, and a text with the separator of containers. -/
def outermost : List Advert :=
  [⟨"", -2147483648, 2147483647, "", false, ""⟩, ⟨"GPU;0", 0, -1, "NVIDIA-Tesla V100", true, "mig"⟩]

-- The mode of the second advert is lost only if an older publisher writes it.
theorem adverts_roundTrip_outermost :
    (∀ advert ∈ outermost, advert.HasFields) ∧ decodeAll (encodeAll outermost) = .ok outermost ∧
      decodeAll ",-2147483648,2147483647,,false,:GPU;0,0,-1,NVIDIA-Tesla V100,true:" =
        .ok [⟨"", -2147483648, 2147483647, "", false, ""⟩,
          ⟨"GPU;0", 0, -1, "NVIDIA-Tesla V100", true, ""⟩] := by
  have plain : ∀ advert ∈ outermost, advert.HasFields := by
    simp only [outermost, List.forall_mem_cons]
    exact ⟨⟨by decide, by decide, by decide⟩, ⟨by decide, by decide, by decide⟩, nofun⟩
  have text : String.ofList ((List.zip [Publisher.current, .older] outermost).flatMap fun record =>
      record.1.encode record.2) =
        ",-2147483648,2147483647,,false,:GPU;0,0,-1,NVIDIA-Tesla V100,true:" := by decide +kernel
  have mixed := adverts_roundTrip.2 (List.zip [.current, .older] outermost)
    fun record listed => plain _ (List.of_mem_zip listed).2
  rw [text] at mixed
  exact ⟨plain, adverts_roundTrip.1 outermost plain, mixed⟩

end Advert

end GpuShare.Wire
