import GpuShare.Proofs.Region.Places

/-!
Builder calls as logs of writes. An allowed call writes the fields that it is given and then the count of its table,
so a field holds after a sequence of calls what the last of them has written to it.
-/

set_option autoImplicit false

namespace GpuShare.Region

open Text

def uuidBytes (uuid : String) : List UInt8 :=
  utf8Bytes uuid ++ List.replicate (Layout.uuidLength - (utf8Bytes uuid).length) 0

def wordBytes (number : UInt64) : List UInt8 := little 8 number.toNat

def intBytes (number : Int32) : List UInt8 := little 4 number.toUInt32.toNat

/-- The writes of what one process uses on one device: the buffer and the total of its record. -/
def usedWrites (slot : Nat) (used : Nat × UInt64) : List Write :=
  [⟨.process slot (.memory used.1 2), wordBytes used.2⟩, ⟨.process slot (.memory used.1 4), wordBytes used.2⟩]

namespace ImageCall

/-- What the builder asserts of a call, and that its UUID has no zero and its devices are slots of the table. -/
def IsAllowed : ImageCall → Prop
  | device slot uuid _ _ =>
    slot < Layout.maxDevices ∧ (utf8Bytes uuid).length < Layout.uuidLength ∧ Char.ofNat 0 ∉ uuid.toList
  | process slot _ _ used => slot < Layout.maxProcesses ∧ ∀ use ∈ used, use.1 < Layout.maxDevices
  | priority _ | recentKernel _ | utilizationSwitch _ | rawDeviceCount _ | rawProcessCount _ => True

instance : DecidablePred IsAllowed
  | device .. => inferInstanceAs (Decidable (_ ∧ _ ∧ _))
  | process .. => inferInstanceAs (Decidable (_ ∧ _))
  | priority _ | recentKernel _ | utilizationSwitch _ | rawDeviceCount _ | rawProcessCount _ => .isTrue trivial

def fields : ImageCall → List Write
  | device slot uuid memoryLimit coreLimit =>
    [⟨.uuid slot, uuidBytes uuid⟩, ⟨.memoryLimit slot, wordBytes memoryLimit⟩, ⟨.coreLimit slot, wordBytes coreLimit⟩]
  | process slot pid hostPid used =>
    [⟨.process slot .pid, intBytes pid⟩, ⟨.process slot .hostPid, intBytes hostPid⟩] ++ used.flatMap (usedWrites slot)
  | priority value => [⟨.priority, intBytes value⟩]
  | recentKernel value => [⟨.recentKernel, intBytes value⟩]
  | utilizationSwitch value => [⟨.utilizationSwitch, intBytes value⟩]
  | rawDeviceCount _ | rawProcessCount _ => []

def counts (devices : UInt64) (processes : Int32) : ImageCall → List Write
  | device slot .. => [⟨.deviceCount, wordBytes (max devices (UInt64.ofNat (slot + 1)))⟩]
  | process slot .. => [⟨.processCount, intBytes (max processes (Int32.ofNat (slot + 1)))⟩]
  | rawDeviceCount count => [⟨.deviceCount, wordBytes count⟩]
  | rawProcessCount count => [⟨.processCount, intBytes count⟩]
  | priority _ | recentKernel _ | utilizationSwitch _ => []

/-- The device count after a call: it grows to cover a slot that is filled. -/
def devicesAfter (count : Nat) : ImageCall → Nat
  | device slot .. => max count (slot + 1)
  | rawDeviceCount raw => raw.toNat
  | process .. | priority _ | recentKernel _ | utilizationSwitch _ | rawProcessCount _ => count

def processesAfter (count : Int) : ImageCall → Int
  | process slot .. => max count (slot + 1)
  | rawProcessCount raw => raw.toInt
  | device .. | priority _ | recentKernel _ | utilizationSwitch _ | rawDeviceCount _ => count

end ImageCall

section Bytes

variable {bytes others : ByteArray} {place : Place}

theorem uuidBytes_length {uuid : String} (short : (utf8Bytes uuid).length < Layout.uuidLength) :
    (uuidBytes uuid).length = Layout.uuidLength := by
  rw [uuidBytes, List.length_append, List.length_replicate]
  omega

theorem wordBytes_length (number : UInt64) : (wordBytes number).length = 8 := little_length ..

theorem intBytes_length (number : Int32) : (intBytes number).length = 4 := little_length ..

theorem word64_of_bytesOf {number : UInt64} (length : place.length = 8)
    (here : bytesOf bytes place = wordBytes number) : word64 bytes place.start = number := by
  rw [bytesOf, length] at here
  rw [word64, here, wordBytes, value_little 8 number.toNat number.toNat_lt, UInt64.ofNat_toNat]

theorem int32_of_bytesOf {number : Int32} (length : place.length = 4)
    (here : bytesOf bytes place = intBytes number) : int32 bytes place.start = number := by
  rw [bytesOf, length] at here
  rw [int32, word32, here, intBytes, value_little 4 number.toUInt32.toNat number.toUInt32.toNat_lt, UInt32.ofNat_toNat,
    Int32.toInt32_toUInt32]

theorem deviceCount_congr (same : bytesOf bytes .deviceCount = bytesOf others .deviceCount) :
    word64 bytes Layout.deviceCount = word64 others Layout.deviceCount :=
  congrArg (fun here => UInt64.ofNat (value here)) same

theorem processCount_congr (same : bytesOf bytes .processCount = bytesOf others .processCount) :
    int32 bytes Layout.processCount = int32 others Layout.processCount :=
  congrArg (fun here => (UInt32.ofNat (value here)).toInt32) same

theorem putUsed_eq (bytes : ByteArray) (slot : Nat) (used : Nat × UInt64) :
    putUsed bytes (Layout.processes + slot * Layout.processLength) used = putAll bytes (usedWrites slot used) := by
  simp only [putUsed, usedWrites, putAll, List.foldl_cons, List.foldl_nil, putWord64, wordBytes, Place.start,
    Part.offset, Nat.add_assoc]

theorem foldl_putUsed (bytes : ByteArray) (slot : Nat) (used : List (Nat × UInt64)) :
    used.foldl (putUsed · (Layout.processes + slot * Layout.processLength) ·) bytes =
      putAll bytes (used.flatMap (usedWrites slot)) := by
  induction used generalizing bytes with
  | nil => rfl
  | cons use used ih =>
    rw [List.foldl_cons, putUsed_eq, ih, List.flatMap_cons, putAll_append]

end Bytes

variable {bytes before middle after : ByteArray} {call : ImageCall} {calls more : List ImageCall} {place : Place}

/-- The fields of an allowed call lie in the layout, and are no counts. -/
theorem ImageCall.IsAllowed.of_mem_fields (allowed : call.IsAllowed) :
    ∀ write ∈ call.fields, write.IsValid ∧ ¬write.place.IsCount := by
  intro write member
  cases call with
  | device slot uuid memoryLimit coreLimit =>
    obtain ⟨inTable, short, -⟩ := allowed
    simp only [ImageCall.fields, List.mem_cons, List.not_mem_nil, or_false] at member
    rcases member with rfl | rfl | rfl
    · exact ⟨⟨inTable, uuidBytes_length short⟩, not_false⟩
    · exact ⟨⟨inTable, wordBytes_length _⟩, not_false⟩
    · exact ⟨⟨inTable, wordBytes_length _⟩, not_false⟩
  | process slot pid hostPid used =>
    obtain ⟨inTable, devices⟩ := allowed
    simp only [ImageCall.fields, List.cons_append, List.nil_append, List.mem_cons, List.mem_flatMap, usedWrites,
      List.not_mem_nil, or_false] at member
    rcases member with rfl | rfl | ⟨use, inUse, rfl | rfl⟩
    · exact ⟨⟨⟨inTable, trivial⟩, intBytes_length _⟩, not_false⟩
    · exact ⟨⟨⟨inTable, trivial⟩, intBytes_length _⟩, not_false⟩
    · exact ⟨⟨⟨inTable, devices use inUse, by decide⟩, wordBytes_length _⟩, not_false⟩
    · exact ⟨⟨⟨inTable, devices use inUse, by decide⟩, wordBytes_length _⟩, not_false⟩
  | priority value | recentKernel value | utilizationSwitch value =>
    obtain rfl := List.mem_singleton.1 member
    exact ⟨⟨trivial, intBytes_length _⟩, not_false⟩
  | rawDeviceCount count | rawProcessCount count => exact absurd member List.not_mem_nil

theorem ImageCall.IsAllowed.fields (allowed : call.IsAllowed) : ∀ write ∈ call.fields, write.IsValid :=
  fun write member => (allowed.of_mem_fields write member).1

theorem ImageCall.isCount_of_mem_counts (devices : UInt64) (processes : Int32) (call : ImageCall) :
    ∀ write ∈ call.counts devices processes, write.IsValid ∧ write.place.IsCount := by
  intro write member
  cases call with
  | device slot | rawDeviceCount count =>
    obtain rfl := List.mem_singleton.1 member
    exact ⟨⟨trivial, wordBytes_length _⟩, trivial⟩
  | process slot | rawProcessCount count =>
    obtain rfl := List.mem_singleton.1 member
    exact ⟨⟨trivial, intBytes_length _⟩, trivial⟩
  | priority | recentKernel | utilizationSwitch => exact absurd member List.not_mem_nil

-- The fields of a call leave the counts alone.
theorem bytesOf_fields_of_count (valid : place.IsValid) (count : place.IsCount) (allowed : call.IsAllowed)
    (size : bytes.size = Layout.size) : bytesOf (putAll bytes call.fields) place = bytesOf bytes place := by
  apply bytesOf_putAll_of_none valid allowed.fields size
  apply writtenAt_eq_nil
  rintro write member rfl
  exact (allowed.of_mem_fields write member).2 count

theorem word64_fields (allowed : call.IsAllowed) (size : bytes.size = Layout.size) :
    word64 (putAll bytes call.fields) Layout.deviceCount = word64 bytes Layout.deviceCount :=
  deviceCount_congr (bytesOf_fields_of_count trivial trivial allowed size)

theorem int32_fields (allowed : call.IsAllowed) (size : bytes.size = Layout.size) :
    int32 (putAll bytes call.fields) Layout.processCount = int32 bytes Layout.processCount :=
  processCount_congr (bytesOf_fields_of_count trivial trivial allowed size)

/-- The byte string after a call: its fields are written, then its count. -/
def ImageCall.filled (call : ImageCall) (bytes : ByteArray) : ByteArray :=
  putAll (putAll bytes call.fields) (call.counts (word64 bytes Layout.deviceCount) (int32 bytes Layout.processCount))

theorem ImageCall.IsAllowed.apply (allowed : call.IsAllowed) (size : bytes.size = Layout.size) :
    call.apply bytes = .ok (call.filled bytes) := by
  have devices := word64_fields allowed size
  have processes := int32_fields allowed size
  cases call with
  | device slot uuid memoryLimit coreLimit =>
    rw [filled, ← devices]
    exact (if_neg (Nat.not_le.2 allowed.1)).trans (if_neg (Nat.not_le.2 allowed.2.1))
  | process slot pid hostPid used =>
    rw [filled, ← processes]
    refine (if_neg (Nat.not_le.2 allowed.1)).trans ?_
    rw [ImageCall.fields, putAll_append, ← foldl_putUsed]
    rfl
  | priority | recentKernel | utilizationSwitch | rawDeviceCount | rawProcessCount => rfl

theorem ImageCall.size_filled (call : ImageCall) (bytes : ByteArray) : (call.filled bytes).size = bytes.size := by
  rw [filled, size_putAll, size_putAll]

structure Fills (calls : List ImageCall) (before after : ByteArray) : Prop where
  size : after.size = Layout.size
  /-- A field holds what was written to it last, or else what it held before. -/
  field : ∀ place : Place, place.IsValid → ¬place.IsCount →
    bytesOf after place = (calls.flatMap fun call => writtenAt place call.fields).getLastD (bytesOf before place)
  devices : (word64 after Layout.deviceCount).toNat =
    calls.foldl ImageCall.devicesAfter (word64 before Layout.deviceCount).toNat
  processes : (int32 after Layout.processCount).toInt =
    calls.foldl ImageCall.processesAfter (int32 before Layout.processCount).toInt

namespace Fills

theorem nil (size : bytes.size = Layout.size) : Fills [] bytes bytes := ⟨size, fun _ _ _ => rfl, rfl, rfl⟩

theorem append (first : Fills calls before middle) (rest : Fills more middle after) :
    Fills (calls ++ more) before after where
  size := rest.size
  field place valid notCount := by
    rw [rest.field place valid notCount, first.field place valid notCount, List.flatMap_append]
    simp only [List.getLastD_eq_getLast?, List.getLast?_append, Option.getD_or]
  devices := by rw [rest.devices, first.devices, List.foldl_append]
  processes := by rw [rest.processes, first.processes, List.foldl_append]

end Fills

theorem toNat_max (a b : UInt64) : (max a b).toNat = max a.toNat b.toNat := by
  have unfolded : max a b = if a ≤ b then b else a := rfl
  rw [unfolded, Nat.max_def, apply_ite UInt64.toNat]
  simp only [UInt64.le_iff_toNat_le]

theorem toInt_max (a b : Int32) : (max a b).toInt = max a.toInt b.toInt := by
  have unfolded : max a b = if a ≤ b then b else a := rfl
  rw [unfolded, Int.max_def, apply_ite Int32.toInt]
  simp only [Int32.le_iff_toInt_le]

theorem word64_putAll (number : UInt64) (size : bytes.size = Layout.size) :
    word64 (putAll bytes [⟨.deviceCount, wordBytes number⟩]) Layout.deviceCount = number := by
  have written : bytesOf (putAll bytes [⟨.deviceCount, wordBytes number⟩]) .deviceCount = wordBytes number :=
    bytesOf_put_self ⟨trivial, wordBytes_length number⟩ size
  simpa only [Place.start] using word64_of_bytesOf (by rfl) written

theorem int32_putAll (number : Int32) (size : bytes.size = Layout.size) :
    int32 (putAll bytes [⟨.processCount, intBytes number⟩]) Layout.processCount = number := by
  have written : bytesOf (putAll bytes [⟨.processCount, intBytes number⟩]) .processCount = intBytes number :=
    bytesOf_put_self ⟨trivial, intBytes_length number⟩ size
  simpa only [Place.start] using int32_of_bytesOf (by rfl) written

-- The count of one table is not written with that of the other.
theorem word64_putAll_processCount (number : Int32) :
    word64 (putAll bytes [⟨.processCount, intBytes number⟩]) Layout.deviceCount = word64 bytes Layout.deviceCount :=
  deviceCount_congr (bytesOf_put_of_ne ⟨trivial, intBytes_length number⟩ trivial nofun)

theorem int32_putAll_deviceCount (number : UInt64) :
    int32 (putAll bytes [⟨.deviceCount, wordBytes number⟩]) Layout.processCount = int32 bytes Layout.processCount :=
  processCount_congr (bytesOf_put_of_ne ⟨trivial, wordBytes_length number⟩ trivial nofun)

theorem word64_filled (allowed : call.IsAllowed) (size : bytes.size = Layout.size) :
    (word64 (call.filled bytes) Layout.deviceCount).toNat =
      call.devicesAfter (word64 bytes Layout.deviceCount).toNat := by
  have fieldsSize : (putAll bytes call.fields).size = Layout.size := (size_putAll ..).trans size
  rw [ImageCall.filled, ← word64_fields allowed size]
  cases call with
  | device slot uuid memoryLimit coreLimit =>
    have inTable : slot < 16 := allowed.1
    have small : (UInt64.ofNat (slot + 1)).toNat = slot + 1 := by
      rw [UInt64.toNat_ofNat']
      omega
    rw [ImageCall.counts, word64_putAll _ fieldsSize, toNat_max, small, ImageCall.devicesAfter]
  | rawDeviceCount count => rw [ImageCall.counts, word64_putAll _ fieldsSize, ImageCall.devicesAfter]
  | process slot pid hostPid used =>
    rw [ImageCall.counts, word64_putAll_processCount, ImageCall.devicesAfter]
  | rawProcessCount count => rw [ImageCall.counts, word64_putAll_processCount, ImageCall.devicesAfter]
  | priority | recentKernel | utilizationSwitch => rfl

theorem int32_filled (allowed : call.IsAllowed) (size : bytes.size = Layout.size) :
    (int32 (call.filled bytes) Layout.processCount).toInt =
      call.processesAfter (int32 bytes Layout.processCount).toInt := by
  have fieldsSize : (putAll bytes call.fields).size = Layout.size := (size_putAll ..).trans size
  rw [ImageCall.filled, ← int32_fields allowed size]
  cases call with
  | process slot pid hostPid used =>
    have inTable : slot < 1024 := allowed.1
    have small : (Int32.ofNat (slot + 1)).toInt = slot + 1 := by
      rw [Int32.toInt_ofNat_of_lt (by omega)]
      rfl
    rw [ImageCall.counts, int32_putAll _ fieldsSize, toInt_max, small, ImageCall.processesAfter]
  | rawProcessCount count => rw [ImageCall.counts, int32_putAll _ fieldsSize, ImageCall.processesAfter]
  | device slot uuid memoryLimit coreLimit =>
    rw [ImageCall.counts, int32_putAll_deviceCount, ImageCall.processesAfter]
  | rawDeviceCount count => rw [ImageCall.counts, int32_putAll_deviceCount, ImageCall.processesAfter]
  | priority | recentKernel | utilizationSwitch => rfl

theorem fills_filled (allowed : call.IsAllowed) (size : bytes.size = Layout.size) :
    Fills [call] bytes (call.filled bytes) where
  size := (call.size_filled bytes).trans size
  field place valid notCount := by
    have counts := call.isCount_of_mem_counts (word64 bytes Layout.deviceCount) (int32 bytes Layout.processCount)
    have elsewhere : ∀ write ∈ call.counts (word64 bytes Layout.deviceCount) (int32 bytes Layout.processCount),
        write.place ≠ place := by
      rintro write member rfl
      exact notCount (counts write member).2
    rw [ImageCall.filled, bytesOf_putAll_of_none valid (fun write member => (counts write member).1)
      ((size_putAll ..).trans size) (writtenAt_eq_nil elsewhere), bytesOf_putAll valid allowed.fields size,
      List.flatMap_singleton]
  devices := word64_filled allowed size
  processes := int32_filled allowed size

/-- Allowed calls are all carried out. -/
theorem foldlM_apply (allowed : ∀ call ∈ calls, call.IsAllowed) (size : bytes.size = Layout.size) :
    ∃ after, calls.foldlM ImageCall.apply bytes = .ok after ∧ Fills calls bytes after := by
  induction calls generalizing bytes with
  | nil => exact ⟨bytes, rfl, .nil size⟩
  | cons call calls ih =>
    obtain ⟨first, rest⟩ := List.forall_mem_cons.1 allowed
    have once := fills_filled first size
    obtain ⟨after, run, fills⟩ := ih rest once.size
    refine ⟨after, ?_, once.append fills⟩
    rw [List.foldlM_cons, first.apply size]
    exact run

end GpuShare.Region
