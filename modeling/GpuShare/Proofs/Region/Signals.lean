import Mathlib.Data.List.Basic
import Mathlib.Data.List.Forall2
import Mathlib.Data.List.TakeWhile
import GpuShare.Feedback.Signals
import GpuShare.Proofs.Lists

/-!
Reads and writes of a region. A read depends on the bytes that it covers and on no others, and a write changes
no others. The counters that a controller writes lie apart from all else that it reads.
-/

set_option autoImplicit false

namespace GpuShare.Region

section Bytes

variable {bytes others : ByteArray} {start n i : Nat} {written : List UInt8}

theorem byteAt_setByte_self (b : UInt8) (inside : i < bytes.size) : byteAt (setByte bytes i b) i = b := by
  unfold byteAt
  rw [dif_pos (by rwa [size_setByte])]
  simp [setByte, ByteArray.set!, ByteArray.getElem_eq_getElem_data]

theorem byteAt_setByte_of_ne (b : UInt8) (differ : start ≠ i) :
    byteAt (setByte bytes start b) i = byteAt bytes i := by
  unfold byteAt
  simp only [size_setByte]
  split
  · next inside =>
    simp only [setByte, ByteArray.set!, ByteArray.getElem_eq_getElem_data]
    exact Array.getElem_setIfInBounds_ne inside differ
  · rfl

theorem byteAt_putBytes_of_lt (before : i < start) : byteAt (putBytes bytes start written) i = byteAt bytes i := by
  induction written generalizing bytes start with
  | nil => rfl
  | cons b rest ih =>
    rw [putBytes, ih (by omega)]
    exact byteAt_setByte_of_ne b (by omega)

theorem byteAt_putBytes_of_ge (behind : start + written.length ≤ i) :
    byteAt (putBytes bytes start written) i = byteAt bytes i := by
  induction written generalizing bytes start with
  | nil => rfl
  | cons b rest ih =>
    rw [List.length_cons] at behind
    rw [putBytes, ih (by omega)]
    exact byteAt_setByte_of_ne b (by omega)

theorem byteAt_putBytes_congr (size : bytes.size = others.size) (same : byteAt bytes i = byteAt others i) :
    byteAt (putBytes bytes start written) i = byteAt (putBytes others start written) i := by
  induction written generalizing bytes others start with
  | nil => exact same
  | cons b rest ih =>
    rw [putBytes, putBytes]
    apply ih
    · rw [size_setByte, size_setByte, size]
    · by_cases here : start = i
      · subst here
        by_cases inside : start < bytes.size
        · rw [byteAt_setByte_self b inside, byteAt_setByte_self b (by omega)]
        · unfold byteAt
          rw [dif_neg (by rwa [size_setByte]), dif_neg (by rw [size_setByte]; omega)]
      · rw [byteAt_setByte_of_ne b here, byteAt_setByte_of_ne b here, same]

theorem bytesAt_congr (same : ∀ i, start ≤ i → i < start + n → byteAt bytes i = byteAt others i) :
    bytesAt bytes start n = bytesAt others start n := by
  induction n generalizing start with
  | zero => rfl
  | succ n ih =>
    have rest : bytesAt bytes (start + 1) n = bytesAt others (start + 1) n :=
      ih fun i least most => same i (by omega) (by omega)
    rw [bytesAt, bytesAt, rest, same start (by omega) (by omega)]

theorem bytesAt_putBytes (fits : start + written.length ≤ bytes.size) :
    bytesAt (putBytes bytes start written) start written.length = written := by
  induction written generalizing bytes start with
  | nil => rfl
  | cons b rest ih =>
    rw [List.length_cons] at fits ⊢
    have first : byteAt (putBytes (setByte bytes start b) (start + 1) rest) start = b := by
      rw [byteAt_putBytes_of_lt (by omega)]
      exact byteAt_setByte_self b (by omega)
    have room : start + 1 + rest.length ≤ (setByte bytes start b).size := by
      rw [size_setByte]
      omega
    rw [bytesAt, putBytes, first, ih room]

theorem int32_congr (same : ∀ i, start ≤ i → i < start + 4 → byteAt bytes i = byteAt others i) :
    int32 bytes start = int32 others start := by
  unfold int32 word32
  rw [bytesAt_congr same]

theorem word64_congr (same : ∀ i, start ≤ i → i < start + 8 → byteAt bytes i = byteAt others i) :
    word64 bytes start = word64 others start := by
  unfold word64
  rw [bytesAt_congr same]

-- A number that fits is read as it was written.
theorem value_putBytes {v : Nat} (small : v < Nat.pow 256 n) (fits : start + n ≤ bytes.size) :
    value (bytesAt (putBytes bytes start (little n v)) start n) = v := by
  have length := little_length n v
  rw [← length] at fits
  have back := bytesAt_putBytes fits
  rw [length] at back
  rw [back, value_little n v small]

theorem int32_putInt32 (value : Int32) (fits : start + 4 ≤ bytes.size) :
    int32 (putInt32 bytes start value) start = value := by
  rw [int32, word32, putInt32, value_putBytes value.toUInt32.toNat_lt fits]
  simp

theorem word64_putWord64 (value : UInt64) (fits : start + 8 ≤ bytes.size) :
    word64 (putWord64 bytes start value) start = value := by
  rw [word64, putWord64, value_putBytes value.toNat_lt fits]
  simp

theorem bytesAt_zeros (size start n : Nat) : bytesAt (zeros size) start n = List.replicate n 0 := by
  induction n generalizing start with
  | zero => rfl
  | succ n ih =>
    have first : byteAt (zeros size) start = 0 := by
      unfold byteAt
      split
      · simp [zeros, ByteArray.getElem_eq_getElem_data]
      · rfl
    rw [bytesAt, first, ih, List.replicate_succ]

theorem byteAt_putInt32 (value : Int32) (outside : i < start ∨ start + 4 ≤ i) :
    byteAt (putInt32 bytes start value) i = byteAt bytes i := by
  cases outside with
  | inl before => exact byteAt_putBytes_of_lt before
  | inr behind => exact byteAt_putBytes_of_ge (by rwa [little_length])

end Bytes

variable {region first second third : Region}

def HasValidHeader (region : Region) : Prop :=
  (word64 region.bytes Layout.deviceCount).toNat ≤ Layout.maxDevices ∧
    0 ≤ (int32 region.bytes Layout.processCount).toInt ∧
    (int32 region.bytes Layout.processCount).toInt ≤ Layout.maxProcesses

instance (region : Region) : Decidable region.HasValidHeader :=
  inferInstanceAs (Decidable (_ ∧ _ ∧ _))

theorem validate_of_valid (valid : region.HasValidHeader) : region.validate = .ok () := by
  obtain ⟨devices, processes⟩ := valid
  unfold validate deviceCount processCount
  dsimp only
  rw [if_pos devices, if_pos processes]
  rfl

theorem validate_of_not_valid (broken : ¬region.HasValidHeader) :
    ∃ reason, region.validate = .error (.layoutViolation reason) := by
  unfold HasValidHeader at broken
  unfold validate deviceCount processCount
  dsimp only
  by_cases devices : (word64 region.bytes Layout.deviceCount).toNat ≤ Layout.maxDevices
  · rw [if_pos devices, if_neg fun processes => broken ⟨devices, processes⟩]
    exact ⟨_, rfl⟩
  · rw [if_neg devices]
    exact ⟨_, rfl⟩

def IsSignalByte (i : Nat) : Prop :=
  Layout.recentKernel ≤ i ∧ i < Layout.recentKernel + 4 ∨
    Layout.utilizationSwitch ≤ i ∧ i < Layout.utilizationSwitch + 4

/-- Two regions of one size that differ at most in the bytes of the two signals. -/
structure SameBesidesSignals (first second : Region) : Prop where
  size : first.bytes.size = second.bytes.size
  byteAt : ∀ i, ¬IsSignalByte i → byteAt first.bytes i = byteAt second.bytes i

namespace SameBesidesSignals

theorem refl (region : Region) : region.SameBesidesSignals region := ⟨rfl, fun _ _ => rfl⟩

theorem trans (start : first.SameBesidesSignals second) (next : second.SameBesidesSignals third) :
    first.SameBesidesSignals third :=
  ⟨start.size.trans next.size, fun i other => (start.byteAt i other).trans (next.byteAt i other)⟩

theorem putCounter {start : Nat} (region : Region) (value : Int32)
    (isSignal : ∀ i, start ≤ i → i < start + 4 → IsSignalByte i) :
    region.SameBesidesSignals (region.putCounter start value) := by
  constructor
  · exact (size_putBytes ..).symm
  · intro i other
    symm
    apply byteAt_putInt32
    rcases Nat.lt_or_ge i start with before | least
    · exact .inl before
    · exact .inr (Nat.le_of_not_lt fun most => other (isSignal i least most))

theorem setRecentKernel (region : Region) (value : Int32) :
    region.SameBesidesSignals (region.setRecentKernel value) :=
  putCounter region value fun _ least most => .inl ⟨least, most⟩

theorem setUtilizationSwitch (region : Region) (value : Int32) :
    region.SameBesidesSignals (region.setUtilizationSwitch value) :=
  putCounter region value fun _ least most => .inr ⟨least, most⟩

theorem put (same : first.SameBesidesSignals second) (start : Nat) (written : List UInt8) :
    (first.put start written).SameBesidesSignals (second.put start written) := by
  constructor
  · unfold Region.put
    rw [size_putBytes, size_putBytes, same.size]
  · intro i other
    exact byteAt_putBytes_congr same.size (same.byteAt i other)

/-- The tables and the header lie in front of the signals. -/
theorem byteAt_of_lt (same : first.SameBesidesSignals second) {i : Nat}
    (before : i < Layout.utilizationSwitch) : Region.byteAt first.bytes i = Region.byteAt second.bytes i := by
  apply same.byteAt
  unfold IsSignalByte
  have order : Layout.utilizationSwitch < Layout.recentKernel := by decide
  omega

theorem hasValidHeader (same : first.SameBesidesSignals second) :
    first.HasValidHeader ↔ second.HasValidHeader := by
  have devicesEnd : Layout.deviceCount + 8 ≤ Layout.utilizationSwitch := by decide
  have processesEnd : Layout.processCount + 4 ≤ Layout.utilizationSwitch := by decide
  have devices : word64 first.bytes Layout.deviceCount = word64 second.bytes Layout.deviceCount :=
    word64_congr fun i _ most => same.byteAt_of_lt (by omega)
  have processes : int32 first.bytes Layout.processCount = int32 second.bytes Layout.processCount :=
    int32_congr fun i _ most => same.byteAt_of_lt (by omega)
  unfold HasValidHeader
  rw [devices, processes]

theorem deviceUuids (same : first.SameBesidesSignals second) : first.deviceUuids = second.deviceUuids := by
  unfold Region.deviceUuids
  apply List.filterMap_congr
  intro slot member
  have inTable : slot < Layout.maxDevices := List.mem_range.1 member
  have slotEnd : Layout.uuids + slot * Layout.uuidLength + Layout.uuidLength ≤ Layout.utilizationSwitch := by
    unfold Layout.maxDevices at inTable
    have tableEnd : Layout.uuids + 16 * 96 ≤ Layout.utilizationSwitch := by decide
    unfold Layout.uuidLength
    omega
  unfold slotUuid
  rw [bytesAt_congr fun i _ most => same.byteAt_of_lt (by omega)]

theorem priority (same : first.SameBesidesSignals second) : first.priority = second.priority := by
  apply int32_congr
  intro i least _
  apply same.byteAt
  unfold IsSignalByte
  have order : Layout.recentKernel + 4 ≤ Layout.priority := by decide
  have sooner : Layout.utilizationSwitch + 4 ≤ Layout.priority := by decide
  omega

end SameBesidesSignals

def record (region : Region) : Feedback.Plain :=
  ⟨region.priority, region.deviceUuids, region.recentKernel, region.utilizationSwitch⟩

theorem record_setRecentKernel (region : Region) (value : Int32) :
    (region.setRecentKernel value).record = { region.record with recentKernel := value } := by
  have same := SameBesidesSignals.setRecentKernel region value
  have written : (region.setRecentKernel value).recentKernel = value :=
    int32_putInt32 value (Nat.le_trans (by decide) region.fits)
  have apart : Layout.utilizationSwitch + 4 ≤ Layout.recentKernel := by decide
  have kept : (region.setRecentKernel value).utilizationSwitch = region.utilizationSwitch :=
    int32_congr fun i _ _ => byteAt_putInt32 value (by omega)
  unfold record
  rw [same.priority, same.deviceUuids, written, kept]

theorem record_setUtilizationSwitch (region : Region) (value : Int32) :
    (region.setUtilizationSwitch value).record = { region.record with utilizationSwitch := value } := by
  have same := SameBesidesSignals.setUtilizationSwitch region value
  have written : (region.setUtilizationSwitch value).utilizationSwitch = value :=
    int32_putInt32 value (Nat.le_trans (by decide) region.fits)
  have apart : Layout.utilizationSwitch + 4 ≤ Layout.recentKernel := by decide
  have kept : (region.setUtilizationSwitch value).recentKernel = region.recentKernel :=
    int32_congr fun i _ _ => byteAt_putInt32 value (by omega)
  unfold record
  rw [same.priority, same.deviceUuids, written, kept]

/-! ## The devices of a record -/

def uuidField (region : Region) (slot : Nat) : List UInt8 :=
  bytesAt region.bytes (Layout.uuids + slot * Layout.uuidLength) Layout.uuidLength

/-- A device slot begins with the bytes of a UUID, which end at its first zero byte if it has one. -/
def HoldsUuid (region : Region) (slot : Nat) (uuid : String) : Prop :=
  ∃ used unused, region.uuidField slot = used ++ unused ∧ used ≠ [] ∧ 0 ∉ used ∧
    (∀ byte ∈ unused.head?, byte = 0) ∧ uuid = Text.utf8Lossy used

/-- The device slots that do not begin with a zero byte. -/
def occupiedSlots (region : Region) : List Nat :=
  (List.range Layout.maxDevices).filter fun slot => (region.uuidField slot).head? ≠ some 0

theorem slotUuid_of_empty {slot : Nat} (empty : (region.uuidField slot).head? = some 0) :
    region.slotUuid slot = none := by
  obtain ⟨rest, field⟩ := List.head?_eq_some_iff.1 empty
  unfold uuidField at field
  rw [slotUuid, field]
  rfl

theorem holdsUuid_of_occupied {slot : Nat} (occupied : (region.uuidField slot).head? ≠ some 0) :
    ∃ uuid, region.slotUuid slot = some uuid ∧ region.HoldsUuid slot uuid := by
  have parts := List.takeWhile_append_dropWhile (p := (· != 0)) (l := region.uuidField slot)
  have used : (region.uuidField slot).takeWhile (· != 0) ≠ [] := by
    cases field : region.uuidField slot with
    | nil => cases field
    | cons first rest =>
      rw [field] at occupied
      have some_byte : (first != 0) = true := bne_iff_ne.2 fun zero => occupied (congrArg some zero)
      rw [List.takeWhile_cons_of_pos (p := (· != 0)) some_byte]
      exact List.cons_ne_nil _ _
  refine ⟨Text.utf8Lossy ((region.uuidField slot).takeWhile (· != 0)), ?_, _, _, parts.symm, used, ?_, ?_, rfl⟩
  · obtain ⟨first, rest, begins⟩ := List.exists_cons_of_ne_nil used
    unfold uuidField at begins ⊢
    rw [slotUuid, begins]
  · exact fun zero => absurd (List.mem_takeWhile_imp (p := (· != 0)) zero) Bool.false_ne_true
  · intro byte first
    have stops := List.head?_dropWhile_not (· != 0) (region.uuidField slot)
    rw [Option.mem_def.1 first] at stops
    simpa using stops

/-- The devices of a record are the UUIDs of the occupied slots, slot by slot. -/
theorem holdsUuid_deviceUuids (region : Region) :
    List.Forall₂ region.HoldsUuid region.occupiedSlots region.record.devices :=
  forall₂_filterMap (fun _ occupied => holdsUuid_of_occupied (by simpa using occupied))
    (fun _ empty => slotUuid_of_empty (by simpa using empty)) _

end GpuShare.Region
