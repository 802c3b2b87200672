import GpuShare.Proofs.Traversal
import GpuShare.Proofs.Region.ImageWrites
import GpuShare.Proofs.Text.Utf8

/-!
A region reads back what was built. Every reader gives for every slot the value that the last call has written to
that field and slot, and an image is refused exactly where the counts that the calls leave do not fit the tables.
-/

set_option autoImplicit false

namespace GpuShare.Region

open Text

variable {α : Type} {bytes : ByteArray} {place : Place} {calls : List ImageCall}

/-- The last value that calls write, where `written` are the values that one of them writes in turn. -/
def latest (written : ImageCall → List α) (unwritten : α) (calls : List ImageCall) : α :=
  (calls.flatMap written).getLastD unwritten

namespace ImageCall

def toDevice (slot : Nat) (read : String → UInt64 → UInt64 → α) : ImageCall → List α
  | device filled uuid memoryLimit coreLimit => if filled = slot then [read uuid memoryLimit coreLimit] else []
  | process .. | priority _ | recentKernel _ | utilizationSwitch _ | rawDeviceCount _ | rawProcessCount _ => []

def toProcess (slot : Nat) (read : Int32 → Int32 → List (Nat × UInt64) → List α) : ImageCall → List α
  | process filled pid hostPid used => if filled = slot then read pid hostPid used else []
  | device .. | priority _ | recentKernel _ | utilizationSwitch _ | rawDeviceCount _ | rawProcessCount _ => []

def toUse (slot device : Nat) : ImageCall → List UInt64 :=
  toProcess slot fun _ _ used => (used.filter (·.1 = device)).map (·.2)

def toPriority : ImageCall → List Int32
  | priority value => [value]
  | device .. | process .. | recentKernel _ | utilizationSwitch _ | rawDeviceCount _ | rawProcessCount _ => []

def toRecentKernel : ImageCall → List Int32
  | recentKernel value => [value]
  | device .. | process .. | priority _ | utilizationSwitch _ | rawDeviceCount _ | rawProcessCount _ => []

def toUtilizationSwitch : ImageCall → List Int32
  | utilizationSwitch value => [value]
  | device .. | process .. | priority _ | recentKernel _ | rawDeviceCount _ | rawProcessCount _ => []

end ImageCall

open ImageCall

def deviceTotal (calls : List ImageCall) : Nat := calls.foldl devicesAfter 0

def processTotal (calls : List ImageCall) : Int := calls.foldl processesAfter 0

/-- The UUID that calls leave in a slot, none where it is empty or was never written. -/
def latestUuid (calls : List ImageCall) (slot : Nat) : Option String :=
  let uuid := latest (toDevice slot fun uuid _ _ => uuid) "" calls
  if uuid = "" then none else some uuid

/-- The process that calls leave in a slot. A builder fills two numbers of a memory record and no others. -/
def latestProcess (calls : List ImageCall) (slot : Nat) : ProcessSlot where
  pid := latest (toProcess slot fun pid _ _ => [pid]) 0 calls
  hostPid := latest (toProcess slot fun _ hostPid _ => [hostPid]) 0 calls
  memory := (List.range Layout.maxDevices).map fun device =>
    let used := latest (toUse slot device) 0 calls
    ⟨0, 0, used, 0, used⟩
  monitorUsed := List.replicate Layout.maxDevices 0
  status := 0

structure ReadsLatest (region : Region) (calls : List ImageCall) : Prop where
  deviceCount : region.deviceCount = .ok (deviceTotal calls)
  processCount : region.processCount = .ok (processTotal calls).toNat
  deviceUuid : ∀ slot < Layout.maxDevices, region.deviceUuid slot = .ok (latestUuid calls slot)
  memoryLimit : ∀ slot < Layout.maxDevices,
    region.memoryLimit slot = .ok (latest (toDevice slot fun _ memoryLimit _ => memoryLimit) 0 calls)
  coreLimit : ∀ slot < Layout.maxDevices,
    region.coreLimit slot = .ok (latest (toDevice slot fun _ _ coreLimit => coreLimit) 0 calls)
  process : ∀ slot < Layout.maxProcesses, region.process slot = .ok (latestProcess calls slot)
  deviceUuids : region.deviceUuids = (List.range Layout.maxDevices).filterMap (latestUuid calls)
  processes : region.processes = .ok ((List.range (processTotal calls).toNat).map (latestProcess calls))
  priority : region.priority = latest toPriority 0 calls
  recentKernel : region.recentKernel = latest toRecentKernel 0 calls
  utilizationSwitch : region.utilizationSwitch = latest toUtilizationSwitch 0 calls

/-! What a call writes at a place are the bytes of the values that it writes to that field. -/

section Fields

variable {number : Nat}

@[simp] theorem writtenAt_flatMap (place : Place) (slot : Nat) (used : List (Nat × UInt64)) :
    writtenAt place (used.flatMap (usedWrites slot)) =
      used.flatMap fun use => writtenAt place (usedWrites slot use) := by
  induction used with
  | nil => rfl
  | cons use used ih => rw [List.flatMap_cons, writtenAt_append, ih, List.flatMap_cons]

theorem writtenAt_uuid (slot : Nat) (call : ImageCall) :
    writtenAt (.uuid slot) call.fields = (call.toDevice slot fun uuid _ _ => uuid).map uuidBytes := by
  cases call with
  | device filled => by_cases here : filled = slot <;> simp [fields, toDevice, here]
  | _ => simp [fields, toDevice, usedWrites]

theorem writtenAt_memoryLimit (slot : Nat) (call : ImageCall) :
    writtenAt (.memoryLimit slot) call.fields =
      (call.toDevice slot fun _ memoryLimit _ => memoryLimit).map wordBytes := by
  cases call with
  | device filled => by_cases here : filled = slot <;> simp [fields, toDevice, here]
  | _ => simp [fields, toDevice, usedWrites]

theorem writtenAt_coreLimit (slot : Nat) (call : ImageCall) :
    writtenAt (.coreLimit slot) call.fields = (call.toDevice slot fun _ _ coreLimit => coreLimit).map wordBytes := by
  cases call with
  | device filled => by_cases here : filled = slot <;> simp [fields, toDevice, here]
  | _ => simp [fields, toDevice, usedWrites]

theorem writtenAt_pid (slot : Nat) (call : ImageCall) :
    writtenAt (.process slot .pid) call.fields = (call.toProcess slot fun pid _ _ => [pid]).map intBytes := by
  cases call with
  | process filled => by_cases here : filled = slot <;> simp [fields, toProcess, usedWrites, here]
  | _ => simp [fields, toProcess]

theorem writtenAt_hostPid (slot : Nat) (call : ImageCall) :
    writtenAt (.process slot .hostPid) call.fields =
      (call.toProcess slot fun _ hostPid _ => [hostPid]).map intBytes := by
  cases call with
  | process filled => by_cases here : filled = slot <;> simp [fields, toProcess, usedWrites, here]
  | _ => simp [fields, toProcess]

theorem writtenAt_usedWrites (filled : number = 2 ∨ number = 4) (slot device : Nat) (use : Nat × UInt64) :
    writtenAt (.process slot (.memory device number)) (usedWrites slot use) =
      if use.1 = device then [wordBytes use.2] else [] := by
  rcases filled with rfl | rfl <;> simp [usedWrites]

theorem writtenAt_memory (filled : number = 2 ∨ number = 4) (slot device : Nat) (call : ImageCall) :
    writtenAt (.process slot (.memory device number)) call.fields = (call.toUse slot device).map wordBytes := by
  cases call with
  | process other pid hostPid used =>
    by_cases here : other = slot
    · have chosen : (used.flatMap fun use => if use.1 = device then [wordBytes use.2] else []) =
          ((used.filter (·.1 = device)).map (·.2)).map wordBytes := by
        induction used with
        | nil => rfl
        | cons use used ih => by_cases of : use.1 = device <;> simp [of, ← ih]
      subst here
      simp only [fields, writtenAt_append, writtenAt_flatMap, writtenAt_usedWrites filled, chosen]
      simp [toUse, toProcess]
    · simp [fields, toUse, toProcess, usedWrites, here]
  | _ => simp [fields, toUse, toProcess]

theorem writtenAt_otherMemory (unfilled : number ≠ 2 ∧ number ≠ 4) (slot device : Nat) (call : ImageCall) :
    writtenAt (.process slot (.memory device number)) call.fields = [] := by
  cases call <;> simp [fields, usedWrites, unfilled.1.symm, unfilled.2.symm]

theorem writtenAt_monitorUsed (slot device : Nat) (call : ImageCall) :
    writtenAt (.process slot (.monitorUsed device)) call.fields = [] := by
  cases call <;> simp [fields, usedWrites]

theorem writtenAt_status (slot : Nat) (call : ImageCall) : writtenAt (.process slot .status) call.fields = [] := by
  cases call <;> simp [fields, usedWrites]

theorem writtenAt_priority (call : ImageCall) : writtenAt .priority call.fields = call.toPriority.map intBytes := by
  cases call <;> simp [fields, toPriority, usedWrites]

theorem writtenAt_recentKernel (call : ImageCall) :
    writtenAt .recentKernel call.fields = call.toRecentKernel.map intBytes := by
  cases call <;> simp [fields, toRecentKernel, usedWrites]

theorem writtenAt_utilizationSwitch (call : ImageCall) :
    writtenAt .utilizationSwitch call.fields = call.toUtilizationSwitch.map intBytes := by
  cases call <;> simp [fields, toUtilizationSwitch, usedWrites]

end Fields

/-! The readers at places of which the bytes are known. -/

section Readers

variable {region : Region} {slot : Nat}

theorem slotUuid_of_bytesOf {uuid : String} (free : Char.ofNat 0 ∉ uuid.toList)
    (here : bytesOf region.bytes (.uuid slot) = uuidBytes uuid) :
    region.slotUuid slot = if uuid = "" then none else some uuid := by
  have text : (uuidBytes uuid).takeWhile (· != 0) = utf8Bytes uuid := by
    have noZero : ∀ b ∈ utf8Bytes uuid, (b != 0) = true := by
      intro b member
      simp only [bne_iff_ne, ne_eq]
      rintro rfl
      exact zero_notMem_utf8Bytes free member
    rw [uuidBytes, List.takeWhile_append_of_pos noZero, List.takeWhile_replicate]
    simp
  have raw : bytesAt region.bytes (Layout.uuids + slot * Layout.uuidLength) Layout.uuidLength = uuidBytes uuid := here
  unfold slotUuid
  dsimp only
  rw [raw, text]
  by_cases empty : uuid = ""
  · subst empty
    rfl
  · rw [if_neg empty]
    split
    · next none => exact absurd (eq_empty_of_utf8Bytes none) empty
    · rw [utf8Lossy_utf8Bytes]

end Readers

/-! What is built, place by place. -/

section Built

variable {written : ImageCall → List α}

theorem size_emptyImage : emptyImage.size = Layout.size := (size_putBytes ..).trans (size_zeros _)

theorem bytesOf_emptyImage (place : Place) (valid : place.IsValid) :
    bytesOf emptyImage place = List.replicate place.length 0 := by
  have behind := place.bounds valid
  rw [bytesOf, ← bytesAt_zeros Layout.size place.start]
  apply bytesAt_congr
  intro i least _
  apply byteAt_putInt32
  omega

theorem latest_mem (written : ImageCall → List α) (unwritten : α) (calls : List ImageCall) :
    latest written unwritten calls = unwritten ∨
      ∃ call ∈ calls, latest written unwritten calls ∈ written call := by
  have member : latest written unwritten calls ∈ unwritten :: calls.flatMap written := List.getLastD_mem_cons
  rcases List.mem_cons.1 member with initial | some
  · exact .inl initial
  · exact .inr (List.mem_flatMap.1 some)

/-- A field holds the bytes of the last value that is written to it. -/
theorem bytesOf_built (place : Place) {encode : α → List UInt8} {unwritten : α} (fills : Fills calls emptyImage bytes)
    (valid : place.IsValid) (field : ¬place.IsCount) (zero : encode unwritten = List.replicate place.length 0)
    (follows : ∀ call, writtenAt place call.fields = (written call).map encode) :
    bytesOf bytes place = encode (latest written unwritten calls) := by
  rw [fills.field place valid field, bytesOf_emptyImage place valid, ← zero]
  simp only [follows, ← List.map_flatMap, latest, List.getLastD_eq_getLast?, List.getLast?_map, Option.getD_map]

theorem word64_built (place : Place) {written : ImageCall → List UInt64} (fills : Fills calls emptyImage bytes)
    (valid : place.IsValid) (field : ¬place.IsCount) (length : place.length = 8)
    (follows : ∀ call, writtenAt place call.fields = (written call).map wordBytes) :
    word64 bytes place.start = latest written 0 calls :=
  word64_of_bytesOf length (bytesOf_built place fills valid field (by rw [length]; rfl) follows)

theorem int32_built (place : Place) {written : ImageCall → List Int32} (fills : Fills calls emptyImage bytes)
    (valid : place.IsValid) (field : ¬place.IsCount) (length : place.length = 4)
    (follows : ∀ call, writtenAt place call.fields = (written call).map intBytes) :
    int32 bytes place.start = latest written 0 calls :=
  int32_of_bytesOf length (bytesOf_built place fills valid field (by rw [length]; rfl) follows)

theorem latest_nil (unwritten : α) (calls : List ImageCall) : latest (fun _ => []) unwritten calls = unwritten := by
  rw [latest, List.flatMap_eq_nil_iff.2 fun _ _ => rfl, List.getLastD_nil]

/-- A number that no call writes is zero. -/
theorem word64_unwritten (place : Place) (fills : Fills calls emptyImage bytes) (valid : place.IsValid)
    (field : ¬place.IsCount) (length : place.length = 8)
    (unwritten : ∀ call : ImageCall, writtenAt place call.fields = []) : word64 bytes place.start = 0 :=
  have none : ∀ call : ImageCall, writtenAt place call.fields = ([] : List UInt64).map wordBytes := unwritten
  (word64_built place fills valid field length none).trans (latest_nil 0 calls)

theorem int32_unwritten (place : Place) (fills : Fills calls emptyImage bytes) (valid : place.IsValid)
    (field : ¬place.IsCount) (length : place.length = 4)
    (unwritten : ∀ call : ImageCall, writtenAt place call.fields = []) : int32 bytes place.start = 0 :=
  have none : ∀ call : ImageCall, writtenAt place call.fields = ([] : List Int32).map intBytes := unwritten
  (int32_built place fills valid field length none).trans (latest_nil 0 calls)

variable {region : Region} {slot device : Nat}

theorem slotUuid_built (fills : Fills calls emptyImage region.bytes) (allowed : ∀ call ∈ calls, call.IsAllowed)
    (inTable : slot < Layout.maxDevices) : region.slotUuid slot = latestUuid calls slot := by
  have zero : uuidBytes "" = List.replicate (Place.uuid slot).length 0 := rfl
  refine slotUuid_of_bytesOf ?_ (bytesOf_built (.uuid slot) fills inTable not_false zero (writtenAt_uuid slot))
  rcases latest_mem (toDevice slot fun uuid _ _ => uuid) "" calls with unwritten | ⟨call, member, written⟩
  · rw [unwritten]
    exact List.not_mem_nil
  · have free := allowed call member
    cases call with
    | device filled uuid memoryLimit coreLimit =>
      have same := List.mem_singleton.1 (List.mem_ite_nil_right.1 written).2
      rw [same]
      exact free.2.2
    | _ => exact absurd written List.not_mem_nil

theorem memoryAt_built (fills : Fills calls emptyImage bytes) (inTable : slot < Layout.maxProcesses)
    (isDevice : device < Layout.maxDevices) :
    memoryAt bytes (Layout.processes + slot * Layout.processLength + Layout.used + device * Layout.memoryLength) =
      ⟨0, 0, latest (toUse slot device) 0 calls, 0, latest (toUse slot device) 0 calls⟩ := by
  have start (number : Nat) : (Place.process slot (.memory device number)).start = Layout.processes +
      slot * Layout.processLength + Layout.used + device * Layout.memoryLength + number * 8 := by
    simp only [Place.start, Part.offset, Nat.add_assoc]
  generalize Layout.processes + slot * Layout.processLength + Layout.used + device * Layout.memoryLength = base
    at start ⊢
  have unfilled (number : Nat) (isNumber : number < 5) (other : number ≠ 2 ∧ number ≠ 4) :
      word64 bytes (base + number * 8) = 0 := by
    rw [← start]
    exact word64_unwritten _ fills ⟨inTable, isDevice, isNumber⟩ not_false rfl (writtenAt_otherMemory other slot device)
  have filled (number : Nat) (isNumber : number < 5) (here : number = 2 ∨ number = 4) :
      word64 bytes (base + number * 8) = latest (toUse slot device) 0 calls := by
    rw [← start]
    exact word64_built _ fills ⟨inTable, isDevice, isNumber⟩ not_false rfl (writtenAt_memory here slot device)
  have context : word64 bytes base = 0 := unfilled 0 (by decide) (by decide)
  have modules : word64 bytes (base + 8) = 0 := unfilled 1 (by decide) (by decide)
  have buffer : word64 bytes (base + 16) = latest (toUse slot device) 0 calls := filled 2 (by decide) (by decide)
  have offset : word64 bytes (base + 24) = 0 := unfilled 3 (by decide) (by decide)
  have total : word64 bytes (base + 32) = latest (toUse slot device) 0 calls := filled 4 (by decide) (by decide)
  rw [memoryAt, context, modules, buffer, offset, total]

theorem processAt_built (fills : Fills calls emptyImage bytes) (inTable : slot < Layout.maxProcesses) :
    processAt bytes (Layout.processes + slot * Layout.processLength) = latestProcess calls slot := by
  have pid := int32_built (.process slot .pid) fills ⟨inTable, trivial⟩ not_false rfl (writtenAt_pid slot)
  have hostPid := int32_built (.process slot .hostPid) fills ⟨inTable, trivial⟩ not_false rfl (writtenAt_hostPid slot)
  have status := int32_unwritten (.process slot .status) fills ⟨inTable, trivial⟩ not_false rfl (writtenAt_status slot)
  have monitorUsed : ∀ device ∈ List.range Layout.maxDevices, word64 bytes
      (Layout.processes + slot * Layout.processLength + Layout.monitorUsed + device * 8) = 0 := by
    intro device member
    have unwritten := word64_unwritten (.process slot (.monitorUsed device)) fills
      ⟨inTable, List.mem_range.1 member⟩ not_false rfl (writtenAt_monitorUsed slot device)
    simpa only [Place.start, Part.offset, Nat.add_assoc] using unwritten
  simp only [Place.start, Part.offset] at pid hostPid status
  rw [processAt, latestProcess, pid, hostPid, status, List.map_congr_left monitorUsed, List.map_const',
    List.length_range, List.map_congr_left fun device member => memoryAt_built fills inTable (List.mem_range.1 member)]

theorem deviceCount_built (fills : Fills calls emptyImage bytes) :
    (word64 bytes Layout.deviceCount).toNat = deviceTotal calls := by
  have empty : bytesOf emptyImage .deviceCount = wordBytes 0 := bytesOf_emptyImage .deviceCount trivial
  have zero := word64_of_bytesOf (by rfl) empty
  rw [Place.start] at zero
  rw [fills.devices, zero]
  rfl

theorem processCount_built (fills : Fills calls emptyImage bytes) :
    (int32 bytes Layout.processCount).toInt = processTotal calls := by
  have empty : bytesOf emptyImage .processCount = intBytes 0 := bytesOf_emptyImage .processCount trivial
  have zero := int32_of_bytesOf (by rfl) empty
  rw [Place.start] at zero
  rw [fills.processes, zero]
  rfl

def Fit (calls : List ImageCall) : Prop :=
  deviceTotal calls ≤ Layout.maxDevices ∧ 0 ≤ processTotal calls ∧ processTotal calls ≤ Layout.maxProcesses

theorem hasValidHeader_built (fills : Fills calls emptyImage region.bytes) : region.HasValidHeader ↔ Fit calls := by
  rw [HasValidHeader, deviceCount_built fills, processCount_built fills, Fit]

theorem readsLatest_built (fills : Fills calls emptyImage region.bytes) (allowed : ∀ call ∈ calls, call.IsAllowed)
    (fit : Fit calls) : region.ReadsLatest calls := by
  obtain ⟨devices, least, most⟩ := fit
  have process (slot : Nat) (inTable : slot < Layout.maxProcesses) :
      region.process slot = .ok (latestProcess calls slot) := by
    rw [Region.process, if_pos inTable, processAt_built fills inTable]
  have processCount : region.processCount = .ok (processTotal calls).toNat := by
    rw [Region.processCount, processCount_built fills]
    exact if_pos ⟨least, most⟩
  have checked {slot : Nat} (inTable : slot < Layout.maxDevices) : checkDevice slot = .ok () := if_pos inTable
  exact {
    deviceCount := by
      rw [Region.deviceCount, deviceCount_built fills]
      exact if_pos devices
    processCount := processCount
    deviceUuid slot inTable := by
      rw [Region.deviceUuid, checked inTable, slotUuid_built fills allowed inTable]
      rfl
    memoryLimit slot inTable := by
      have number := word64_built (.memoryLimit slot) fills inTable not_false rfl (writtenAt_memoryLimit slot)
      rw [Place.start] at number
      rw [Region.memoryLimit, checked inTable, number]
      rfl
    coreLimit slot inTable := by
      have number := word64_built (.coreLimit slot) fills inTable not_false rfl (writtenAt_coreLimit slot)
      rw [Place.start] at number
      rw [Region.coreLimit, checked inTable, number]
      rfl
    process := process
    deviceUuids := List.filterMap_congr fun slot member => slotUuid_built fills allowed (List.mem_range.1 member)
    processes := by
      have inTable (slot : Nat) (member : slot ∈ List.range (processTotal calls).toNat) :
          slot < Layout.maxProcesses := by
        have below := List.mem_range.1 member
        omega
      rw [Region.processes, processCount]
      exact mapM_ok fun slot member => process slot (inTable slot member)
    priority := int32_built .priority fills trivial not_false rfl writtenAt_priority
    recentKernel := int32_built .recentKernel fills trivial not_false rfl writtenAt_recentKernel
    utilizationSwitch := int32_built .utilizationSwitch fills trivial not_false rfl writtenAt_utilizationSwitch }

end Built

/-- A region reads back what allowed calls have built, unless the counts that they leave do not fit its tables. -/
theorem reads_back_built (allowed : ∀ call ∈ calls, call.IsAllowed) :
    ∃ bytes, buildImage calls = .ok bytes ∧
      ((∃ reason, ofBytes bytes = .error (.layoutViolation reason)) ↔
        Layout.maxDevices < deviceTotal calls ∨ processTotal calls < 0 ∨ Layout.maxProcesses < processTotal calls) ∧
      (Fit calls → ∃ region, ofBytes bytes = .ok region ∧ region.ReadsLatest calls) := by
  obtain ⟨bytes, built, fills⟩ := foldlM_apply allowed size_emptyImage
  have fits : Layout.size ≤ bytes.size := Nat.le_of_eq fills.size.symm
  have opened : ofBytes bytes = (validate ⟨bytes, fits⟩).map fun _ => ⟨bytes, fits⟩ := dif_pos fits
  have valid : HasValidHeader ⟨bytes, fits⟩ ↔ Fit calls := hasValidHeader_built fills
  have unfit : ¬Fit calls ↔
      Layout.maxDevices < deviceTotal calls ∨ processTotal calls < 0 ∨ Layout.maxProcesses < processTotal calls := by
    unfold Fit
    omega
  refine ⟨bytes, built, ?_, ?_⟩
  · rw [← unfit, ← valid, opened]
    constructor
    · rintro ⟨reason, refused⟩ header
      rw [validate_of_valid header] at refused
      exact absurd refused nofun
    · intro broken
      obtain ⟨reason, refused⟩ := validate_of_not_valid broken
      rw [refused]
      exact ⟨reason, rfl⟩
  · intro fit
    rw [opened, validate_of_valid (valid.2 fit)]
    exact ⟨⟨bytes, fits⟩, rfl, readsLatest_built fills allowed fit⟩

/-- A slot that is emptied again, and a process that uses one device twice. -/
def refilled : List ImageCall :=
  [.device 0 "GPU-a" 4096 30, .device 2 "GPU-c" 2048 50, .process 1 100 9000 [(0, 5), (2, 6), (0, 8)],
    .device 2 "" 1024 60, .rawProcessCount 2]

theorem reads_back_refilled :
    (∀ call ∈ refilled, call.IsAllowed) ∧ Fit refilled ∧
      ∃ bytes region, buildImage refilled = .ok bytes ∧ ofBytes bytes = .ok region ∧
        region.deviceUuids = ["GPU-a"] ∧ region.memoryLimit 2 = .ok 1024 ∧
        region.processes.map (·.map fun process => (process.pid, process.memory.map (·.total))) =
          .ok [(0, List.replicate 16 0), (100, [8, 0, 6] ++ List.replicate 13 0)] := by
  have allowed : ∀ call ∈ refilled, call.IsAllowed := by decide
  have fit : Fit refilled := ⟨by decide, by decide, by decide⟩
  obtain ⟨bytes, built, _, fitting⟩ := reads_back_built allowed
  obtain ⟨region, opened, reads⟩ := fitting fit
  refine ⟨allowed, fit, bytes, region, built, opened, ?_, ?_, ?_⟩
  · rw [reads.deviceUuids]
    decide
  · rw [reads.memoryLimit 2 (by decide)]
    rfl
  · rw [reads.processes]
    decide

end GpuShare.Region
