import GpuShare.Wire.Pending
import GpuShare.Proofs.Wire.Grammar

/-! Grants that are written are read back, as long as their names have no separators; what is read has
none. So a queue is on its pod what it is in memory. -/

set_option autoImplicit false

namespace GpuShare.Wire

open Text

def separators : List Char := [',', ':', ';']

def IsPlain (cs : List Char) : Prop := ∀ sep ∈ separators, sep ∉ cs

namespace Grant

def IsPlain (grant : Grant) : Prop :=
  Wire.IsPlain grant.uuid.toList ∧ Wire.IsPlain grant.deviceType.toList

def fields (grant : Grant) : List (List Char) :=
  [grant.uuid.toList, grant.deviceType.toList, signedDigits grant.memory.toInt,
    signedDigits grant.cores.toInt]

end Grant

theorem isPlain_signedDigits (i : Int) : IsPlain (signedDigits i) := by
  intro sep separates
  simp only [separators, List.mem_cons, List.not_mem_nil, or_false] at separates
  rcases separates with rfl | rfl | rfl
  · exact not_mem_signedDigits (by decide) (by decide) i
  · exact not_mem_signedDigits (by decide) (by decide) i
  · exact not_mem_signedDigits (by decide) (by decide) i

variable {grant : Grant} {grants : List Grant}

theorem Grant.IsPlain.fields (plain : grant.IsPlain) :
    ∀ field ∈ grant.fields, Wire.IsPlain field := by
  simp only [Grant.fields, List.forall_mem_cons]
  exact ⟨plain.1, plain.2, isPlain_signedDigits _, isPlain_signedDigits _, nofun⟩

theorem Grant.encode_eq (grant : Grant) : grant.encode = writeRecord grant.fields := by
  simp [Grant.encode, Grant.fields, writeRecord, joinWith]

theorem Grant.IsPlain.areFields (plain : grant.IsPlain) : AreFields grant.fields :=
  ⟨Nat.le_add_left 2 2, fun field member => plain.fields field member ',' (by decide),
    fun field member => plain.fields field member ':' (by decide)⟩

theorem Grant.decode_fields (plain : grant.IsPlain) :
    Grant.decode (joinWith ',' grant.fields) = .ok grant := by
  rw [Grant.decode, plain.areFields.splitOn_joinWith]
  simp only [Grant.fields, readField, readInt32?_signedDigits, String.ofList_toList]
  rfl

theorem Grant.decodeContainer_encodeContainer (plain : ∀ grant ∈ grants, grant.IsPlain) :
    Grant.decodeContainer (Grant.encodeContainer grants) = .ok grants := by
  have read := decodeRecords_of_decode (fun grant member => (plain grant member).areFields)
    fun grant member => Grant.decode_fields (plain grant member)
  rw [List.map_id'] at read
  have written : Grant.encode = fun grant => writeRecord grant.fields := funext Grant.encode_eq
  rw [Grant.decodeContainer, Grant.encodeContainer, written]
  exact read

-- A record that is cut out between separators gives names without them.
theorem Grant.isPlain_of_decode {record : List Char} {grant : Grant}
    (outer : ∀ c ∈ record, c ≠ ':' ∧ c ≠ ';') (reads : Grant.decode record = .ok grant) :
    grant.IsPlain := by
  obtain ⟨memory, cores, pieces, -, -⟩ := Grant.decode_eq_ok.1 reads
  have plain : ∀ field ∈ splitOn ',' record, Wire.IsPlain field := by
    intro field member sep separates inside
    obtain ⟨comma, written⟩ := mem_piece member inside
    obtain ⟨colon, semicolon⟩ := outer sep written
    simp only [separators, List.mem_cons, List.not_mem_nil, or_false] at separates
    rcases separates with rfl | rfl | rfl
    · exact comma rfl
    · exact colon rfl
    · exact semicolon rfl
  rw [arePieces_iff.1 pieces] at plain
  exact ⟨plain _ (by simp), plain _ (by simp)⟩

namespace Grants

def IsPlain (grants : Grants) : Prop := ∀ container ∈ grants, ∀ grant ∈ container, grant.IsPlain

theorem not_mem_encodeContainer (plain : ∀ grant ∈ grants, grant.IsPlain) :
    ';' ∉ Grant.encodeContainer grants := by
  intro member
  obtain ⟨grant, inside, written⟩ := List.mem_flatMap.1 member
  rw [Grant.encode_eq, writeRecord, List.mem_append, List.mem_singleton] at written
  rcases written with field | colon
  · exact not_mem_joinWith (by decide) (fun field member =>
      (plain grant inside).fields field member ';' (by decide)) field
  · cases colon

theorem encodeContainer_eq_nil : Grant.encodeContainer grants = [] ↔ grants = [] := by
  cases grants with
  | nil => exact ⟨fun _ => rfl, fun _ => rfl⟩
  | cons grant grants =>
    simp [Grant.encodeContainer, Grant.encode]

-- What is written is read back; one empty container reads as none.
theorem decode_encode {grants : Grants} (plain : grants.IsPlain) :
    decode grants.encode = .ok (if grants = [[]] then [] else grants) := by
  have text : grants.encode.toList = joinWith ';' (grants.map Grant.encodeContainer) :=
    String.toList_ofList
  have readBack : (grants.map Grant.encodeContainer).mapM Grant.decodeContainer = .ok grants := by
    rw [mapM_eq_ok, List.forall₂_map_left_iff, List.forall₂_same]
    exact fun container member => Grant.decodeContainer_encodeContainer (plain container member)
  cases grants with
  | nil => rfl
  | cons container containers =>
    have cut : splitOn ';' (joinWith ';' ((container :: containers).map Grant.encodeContainer)) =
        (container :: containers).map Grant.encodeContainer := by
      refine splitOn_joinWith (List.cons_ne_nil _ _) fun piece member => ?_
      obtain ⟨other, inside, rfl⟩ := List.mem_map.1 member
      exact not_mem_encodeContainer (plain other inside)
    rw [decode]
    split
    · next empty =>
      -- An empty text is one empty container.
      rw [text] at empty
      rw [empty, List.map_cons, splitOn] at cut
      obtain ⟨first, others⟩ := List.cons.inj cut
      rw [if_pos]
      rw [encodeContainer_eq_nil.1 first.symm, List.map_eq_nil_iff.1 others.symm]
    · next cs some_text =>
      rw [text, cut, readBack, if_neg]
      intro single
      rw [single] at text some_text
      exact some_text text

theorem isPlain_of_decode {text : String} {grants : Grants} (reads : decode text = .ok grants) :
    grants.IsPlain := by
  intro container inside grant member
  rw [decode] at reads
  split at reads
  · cases reads
    cases inside
  · next cs _ =>
    obtain ⟨part, cutPart, readPart⟩ := mem_of_mapM reads inside
    obtain ⟨record, cutRecord, readRecord⟩ := mem_of_mapM readPart member
    have cut := (List.mem_filter.1 cutRecord).1
    refine Grant.isPlain_of_decode (fun c written => ?_) readRecord
    obtain ⟨colon, onPart⟩ := mem_piece cut written
    exact ⟨colon, (mem_piece cutPart onPart).1⟩

def atContainer (grants : Grants) (position : Nat) : List Grant := grants[position]?.getD []

theorem erase_atContainer (grants : Grants) (position : Nat) (deviceType : String) (other : Nat) :
    (grants.erase position deviceType).atContainer other =
      if other = position then (grants.atContainer other).filter (!·.isOf deviceType)
      else grants.atContainer other := by
  rw [atContainer, atContainer, erase, List.getElem?_modify]
  by_cases same : other = position
  · subst same
    cases grants[other]? with
    | none => simp
    | some container => simp
  · cases grants[other]? with
    | none => simp
    | some container => simp [same, Ne.symm same]

theorem IsPlain.erase {grants : Grants} (plain : grants.IsPlain) (position : Nat)
    (deviceType : String) : (grants.erase position deviceType).IsPlain := by
  intro container inside grant member
  obtain ⟨other, here⟩ := List.mem_iff_getElem?.1 inside
  have kept : grant ∈ grants.atContainer other := by
    have erased := grants.erase_atContainer position deviceType other
    rw [atContainer, here, Option.getD_some] at erased
    rw [erased] at member
    split at member
    · exact (List.mem_filter.1 member).1
    · exact member
  rw [atContainer] at kept
  cases held : grants[other]? with
  | none =>
    rw [held] at kept
    cases kept
  | some whole =>
    rw [held] at kept
    exact plain whole (List.mem_of_getElem? held) grant kept

-- The next request is all that one container has of a type, and no earlier one has any.
theorem nextFrom?_eq_some {deviceType : String} {grants : Grants} {start position : Nat}
    {request : List Grant} (next : nextFrom? deviceType start grants = some (position, request)) :
    ∃ offset, position = start + offset ∧
      request = (grants.atContainer offset).filter (·.isOf deviceType) ∧ request ≠ [] ∧
      ∀ earlier < offset, (grants.atContainer earlier).filter (·.isOf deviceType) = [] := by
  induction grants generalizing start with
  | nil => cases next
  | cons container containers ih =>
    rw [nextFrom?] at next
    split at next
    · next nothing =>
      obtain ⟨offset, rfl, rfl, some_grant, before⟩ := ih next
      refine ⟨offset + 1, by omega, rfl, some_grant, fun earlier lower => ?_⟩
      cases earlier with
      | zero => exact nothing
      | succ earlier => exact before earlier (by omega)
    · next some_grant =>
      cases next
      exact ⟨0, rfl, rfl, some_grant, fun earlier lower => absurd lower (by omega)⟩

theorem next?_eq_some {deviceType : String} {grants : Grants} {position : Nat}
    {request : List Grant} (next : grants.next? deviceType = some (position, request)) :
    request = (grants.atContainer position).filter (·.isOf deviceType) ∧ request ≠ [] ∧
      ∀ earlier < position, (grants.atContainer earlier).filter (·.isOf deviceType) = [] := by
  obtain ⟨offset, same, facts⟩ := nextFrom?_eq_some next
  rw [Nat.zero_add] at same
  subst same
  exact facts

-- The first container that has grants of a type is the next one.
theorem nextFrom?_of_first {deviceType : String} {grants : Grants} (start : Nat) {offset : Nat}
    (some_grant : (grants.atContainer offset).filter (·.isOf deviceType) ≠ [])
    (before : ∀ earlier < offset, (grants.atContainer earlier).filter (·.isOf deviceType) = []) :
    nextFrom? deviceType start grants =
      some (start + offset, (grants.atContainer offset).filter (·.isOf deviceType)) := by
  induction grants generalizing start offset with
  | nil => exact absurd rfl some_grant
  | cons container containers ih =>
    rw [nextFrom?]
    cases offset with
    | zero =>
      split
      · next nothing => exact absurd nothing some_grant
      · rfl
    | succ offset =>
      have nothing : container.filter (·.isOf deviceType) = [] := before 0 (Nat.succ_pos _)
      rw [nothing]
      dsimp only
      rw [ih (start + 1) some_grant fun earlier lower => before (earlier + 1) (Nat.succ_lt_succ lower),
        Nat.add_assoc, Nat.add_comm 1]
      rfl

theorem next?_of_first {deviceType : String} {grants : Grants} {position : Nat}
    (some_grant : (grants.atContainer position).filter (·.isOf deviceType) ≠ [])
    (before : ∀ earlier < position, (grants.atContainer earlier).filter (·.isOf deviceType) = []) :
    grants.next? deviceType =
      some (position, (grants.atContainer position).filter (·.isOf deviceType)) := by
  rw [next?, nextFrom?_of_first 0 some_grant before, Nat.zero_add]

theorem hasPending_iff {deviceType : String} {grants : Grants} :
    grants.hasPending [deviceType] = true ↔
      ∃ position, (grants.atContainer position).filter (·.isOf deviceType) ≠ [] := by
  rw [hasPending, List.any_eq_true]
  constructor
  · rintro ⟨container, inside, has⟩
    obtain ⟨position, here⟩ := List.mem_iff_getElem?.1 inside
    obtain ⟨grant, member, is⟩ := List.any_eq_true.1 has
    refine ⟨position, List.ne_nil_of_mem (a := grant) (List.mem_filter.2 ⟨?_, ?_⟩)⟩
    · rw [atContainer, here]
      exact member
    · rw [List.contains_cons, List.contains_nil, Bool.or_false] at is
      exact is
  · rintro ⟨position, some_grant⟩
    obtain ⟨grant, member⟩ := List.exists_mem_of_ne_nil _ some_grant
    obtain ⟨member, is⟩ := List.mem_filter.1 member
    rw [atContainer] at member
    cases here : grants[position]? with
    | none =>
      rw [here] at member
      cases member
    | some container =>
      rw [here] at member
      refine ⟨container, List.mem_of_getElem? here, List.any_eq_true.2 ⟨grant, member, ?_⟩⟩
      rw [List.contains_cons, List.contains_nil, Bool.or_false]
      exact is

-- Writing and reading leaves every container its grants.
theorem atContainer_decode_encode {grants : Grants} (plain : grants.IsPlain) :
    ∃ read, decode grants.encode = .ok read ∧
      ∀ position, read.atContainer position = grants.atContainer position := by
  refine ⟨_, decode_encode plain, fun position => ?_⟩
  split
  · next single =>
    rw [single]
    cases position with
    | zero => rfl
    | succ position => rfl
  · rfl

/-- Plain grants are read back as they were written, but one empty container is read as none. All that is
read is plain. So what is written after a request was erased is read back too, and every container has what
was left to it. -/
theorem decode_roundTrips :
    (∀ grants : Grants, grants.IsPlain →
      decode grants.encode = .ok (if grants = [[]] then [] else grants)) ∧
    ∀ (text : String) (grants : Grants), decode text = .ok grants →
      grants.IsPlain ∧ decode grants.encode = .ok (if grants = [[]] then [] else grants) ∧
      ∀ (position : Nat) (deviceType : String), ∃ read,
        decode (grants.erase position deviceType).encode = .ok read ∧
        read = (if grants.erase position deviceType = [[]] then []
          else grants.erase position deviceType) ∧
        ∀ container, read.atContainer container =
          if container = position then (grants.atContainer container).filter (!·.isOf deviceType)
          else grants.atContainer container := by
  refine ⟨fun grants => decode_encode, fun text grants reads => ?_⟩
  have plain := isPlain_of_decode reads
  refine ⟨plain, decode_encode plain, fun position deviceType => ?_⟩
  have erased := plain.erase position deviceType
  obtain ⟨read, decoded, same⟩ := atContainer_decode_encode erased
  refine ⟨read, decoded, ?_, fun container => ?_⟩
  · exact Except.ok.inj (decoded.symm.trans (decode_encode erased))
  · rw [same, erase_atContainer]

/-- Empty containers around one whose quotas are the ends of their range, with an empty name. -/
def outermost : Grants := [[], [⟨"", "NVIDIA", -2147483648, 2147483647⟩, ⟨"GPU-0[a-1]", "", 0, -1⟩], []]

-- Records that are none leave empty containers, and one alone reads as no container when it is written.
theorem decode_roundTrips_outermost :
    outermost.IsPlain ∧ decode outermost.encode = .ok outermost ∧
      decode "none:" = .ok [[]] ∧ decode (encode [[]]) = .ok [] := by
  have plain : outermost.IsPlain := by
    simp [IsPlain, Grant.IsPlain, Wire.IsPlain, outermost, separators]
  have blank : decode "none:" = .ok [[]] := by cbv
  exact ⟨plain, decode_roundTrips.1 outermost plain, blank, (decode_roundTrips.2 _ _ blank).2.1⟩

end Grants

end GpuShare.Wire
