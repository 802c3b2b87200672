import GpuShare.Proofs.Execution
import GpuShare.Proofs.Traversal
import GpuShare.Proofs.Region.Places

/-!
The readers of a region as programs that copy its fields out one by one. Between two copies the bytes may change, so
each copy is answered on its own. Whatever it is answered, a reader copies only bytes that every region has, and it
fails just if it comes upon a count that does not fit its table. On bytes that stay as they are it tells what the
region tells.
-/

set_option autoImplicit false

namespace GpuShare.Region.Access

open Text Program

inductive Request where
  | fetch (start length : Nat)
  | store (start : Nat) (written : List UInt8)
  deriving Repr, DecidableEq

abbrev Answer : Request → Type
  | .fetch .. => List UInt8
  | .store .. => Unit

abbrev interface : Interface := ⟨Request, Answer⟩

abbrev Reader (α : Type) := Attempt interface RegionError α

/-- Bytes that do not change but by being written. -/
def serve : (request : Request) → Region → Answer request × Region
  | .fetch start length, region => (bytesAt region.bytes start length, region)
  | .store start written, region => ((), region.put start written)

def IsInside : Request → Prop
  | .fetch start length => start + length ≤ Layout.size
  | .store start written => start + written.length ≤ Layout.size

def wordOf (bytes : List UInt8) : UInt64 := UInt64.ofNat (value bytes)

def intOf (bytes : List UInt8) : Int32 := (UInt32.ofNat (value bytes)).toInt32

/-- A count was copied that does not fit its table. -/
def IsBadCount : Exchange interface → Prop
  | ⟨.fetch start _, bytes⟩ =>
    start = Layout.deviceCount ∧ Layout.maxDevices < (wordOf bytes).toNat ∨
      start = Layout.processCount ∧ ((intOf bytes).toInt < 0 ∨ Layout.maxProcesses < (intOf bytes).toInt)
  | ⟨.store .., _⟩ => False

/-! ## The readers -/

def fetch (start length : Nat) : Reader (List UInt8) :=
  Attempt.lift (.request (I := interface) (.fetch start length))

def store (start : Nat) (written : List UInt8) : Reader Unit :=
  Attempt.lift (.request (I := interface) (.store start written))

def word64 (start : Nat) : Reader UInt64 := do return wordOf (← fetch start 8)

def word32 (start : Nat) : Reader UInt32 := do return UInt32.ofNat (value (← fetch start 4))

def int32 (start : Nat) : Reader Int32 := do return intOf (← fetch start 4)

def deviceCount : Reader Nat := do
  let count ← word64 Layout.deviceCount
  if count.toNat ≤ Layout.maxDevices then return count.toNat
  else throw (.layoutViolation
    ("device count " ++ decimal count.toNat ++ " exceeds " ++ decimal Layout.maxDevices ++ " slots"))

def processCount : Reader Nat := do
  let count ← int32 Layout.processCount
  if 0 ≤ count.toInt ∧ count.toInt ≤ Layout.maxProcesses then return count.toInt.toNat
  else throw (.layoutViolation
    ("process count " ++ signedDecimal count.toInt ++ " outside 0..=" ++ decimal Layout.maxProcesses))

def validate : Reader Unit := do
  let _ ← deviceCount
  let _ ← processCount

def isSet (start : Nat) : Reader Bool := do return (← int32 start) != 0

def slotUuid (index : Nat) : Reader (Option String) := do
  let raw ← fetch (Layout.uuids + index * Layout.uuidLength) Layout.uuidLength
  return match raw.takeWhile (· != 0) with
    | [] => none
    | uuid => some (utf8Lossy uuid)

def deviceUuids : Reader (List String) := do
  return (← (List.range Layout.maxDevices).mapM slotUuid).filterMap id

def ofDevice {α : Type} (index : Nat) (reader : Reader α) : Reader α :=
  if index < Layout.maxDevices then reader else throw (.indexOutOfBounds "device" index Layout.maxDevices)

def memoryAt (start : Nat) : Reader DeviceMemory := do
  return ⟨← word64 start, ← word64 (start + 8), ← word64 (start + 16), ← word64 (start + 24), ← word64 (start + 32)⟩

def processAt (start : Nat) : Reader ProcessSlot := do
  let memory ← (List.range Layout.maxDevices).mapM fun device =>
    memoryAt (start + Layout.used + device * Layout.memoryLength)
  let monitorUsed ← (List.range Layout.maxDevices).mapM fun device => word64 (start + Layout.monitorUsed + device * 8)
  let pid ← int32 (start + Layout.pid)
  let hostPid ← int32 (start + Layout.hostPid)
  return ⟨pid, hostPid, memory, monitorUsed, ← int32 (start + Layout.status)⟩

def process (index : Nat) : Reader ProcessSlot :=
  if index < Layout.maxProcesses then processAt (Layout.processes + index * Layout.processLength)
  else throw (.indexOutOfBounds "process" index Layout.maxProcesses)

def processes : Reader (List ProcessSlot) := do (List.range (← processCount)).mapM process

def putInt32 (start : Nat) (value : Int32) : Reader Unit := store start (little 4 value.toUInt32.toNat)

/-! ## What a reader does -/

section Reads

variable {α β ι : Type} {exchanges earlier later : List (Exchange interface)}

/-- An outcome after some exchanges: the layout is violated just if a bad count was copied, and nothing else fails. -/
def Suits (exchanges : List (Exchange interface)) : Except RegionError α → Prop
  | .ok _ => ∀ exchange ∈ exchanges, ¬ IsBadCount exchange
  | .error (.layoutViolation _) => ∃ exchange ∈ exchanges, IsBadCount exchange
  | .error _ => False

theorem Suits.append {outcome : Except RegionError α} (fine : ∀ exchange ∈ earlier, ¬ IsBadCount exchange)
    (suits : Suits later outcome) : Suits (earlier ++ later) outcome := by
  cases outcome with
  | ok a => exact List.forall_mem_append.2 ⟨fine, suits⟩
  | error e =>
    cases e with
    | layoutViolation reason =>
      obtain ⟨exchange, member, bad⟩ := suits
      exact ⟨exchange, List.mem_append_right _ member, bad⟩
    | _ => exact suits

-- How an attempt fails says nothing of its value.
theorem Suits.error {e : RegionError} (suits : Suits exchanges (.error e : Except RegionError α)) :
    Suits exchanges (.error e : Except RegionError β) := by
  cases e <;> exact suits

/-- A reader keeps inside, fails for bad counts only, and on bytes that stay the same has a result. -/
structure Reads (reader : Reader α) (result : Region → Except RegionError α) : Prop where
  inside : reader.run.Asks IsInside
  suits : ∀ exchanges outcome, reader.run.Ends exchanges outcome → Suits exchanges outcome
  agrees : ∀ region, reader.run.run serve region = (result region, region)

namespace Reads

variable {reader : Reader α} {result : Region → Except RegionError α} {next : α → Reader β}
  {rest : α → Region → Except RegionError β}

theorem pure (a : α) : Reads (Pure.pure a) fun _ => .ok a where
  inside := trivial
  suits := by
    rintro exchanges outcome ⟨rfl, rfl⟩
    exact List.forall_mem_nil _
  agrees _ := rfl

/-- The second reader has to be right only for what the first one can give it. -/
theorem bind_of {good : α → Prop} (first : Reads reader result)
    (gives : reader.run.Gives fun outcome => ∀ a, outcome = .ok a → good a)
    (second : ∀ a, good a → Reads (next a) (rest a)) :
    Reads (reader >>= next) fun region => result region >>= fun a => rest a region where
  inside := by
    rw [ExceptT.run_bind]
    refine asks_bind_of_gives first.inside gives fun outcome given => ?_
    cases outcome with
    | ok a => exact (second a (given a rfl)).inside
    | error e => trivial
  suits := by
    intro exchanges outcome ends
    obtain ⟨e, rfl, fails⟩ | ⟨a, earlier, later, rfl, begins, goesOn⟩ := Attempt.ends_bind.1 ends
    · exact (first.suits _ _ fails).error
    · have given : good a := gives.of_ends begins a rfl
      exact Suits.append (first.suits _ _ begins) ((second a given).suits _ _ goesOn)
  agrees region := by
    have given := gives.run serve region
    rw [ExceptT.run_bind]
    refine (run_bind (I := interface) serve _ _ region).trans ?_
    rw [first.agrees] at given ⊢
    cases outcome : result region with
    | ok a => exact (second a (given a outcome)).agrees region
    | error e => rfl

theorem bind (first : Reads reader result) (second : ∀ a, Reads (next a) (rest a)) :
    Reads (reader >>= next) fun region => result region >>= fun a => rest a region :=
  first.bind_of (gives_of_forall fun _ _ _ => trivial) fun a _ => second a

theorem congr {other : Region → Except RegionError α} (reads : Reads reader result)
    (same : ∀ region, result region = other region) : Reads reader other :=
  ⟨reads.inside, reads.suits, fun region => same region ▸ reads.agrees region⟩

theorem mapM {l : List ι} {reader : ι → Reader α} {result : ι → Region → Except RegionError α}
    (each : ∀ i ∈ l, Reads (reader i) (result i)) : Reads (l.mapM reader) fun region => l.mapM (result · region) := by
  induction l with
  | nil => exact Reads.pure []
  | cons i l ih =>
    obtain ⟨first, others⟩ := List.forall_mem_cons.1 each
    simp only [List.mapM_cons]
    exact first.bind fun a => (ih others).bind fun as => Reads.pure (a :: as)

end Reads

/-! ## Fields -/

variable {start length : Nat}

theorem reads_fetch (inside : start + length ≤ Layout.size) (devices : start ≠ Layout.deviceCount)
    (processes : start ≠ Layout.processCount) :
    Reads (fetch start length) fun region => .ok (bytesAt region.bytes start length) where
  inside := ⟨inside, fun _ => trivial⟩
  suits := by
    rintro exchanges outcome ⟨answer, rest, rfl, rfl, rfl⟩
    refine List.forall_mem_singleton.2 ?_
    rintro (⟨same, -⟩ | ⟨same, -⟩)
    · exact devices same
    · exact processes same
  agrees _ := rfl

theorem reads_word32 (inside : start + 4 ≤ Layout.size) (devices : start ≠ Layout.deviceCount)
    (processes : start ≠ Layout.processCount) :
    Reads (word32 start) fun region => .ok (Region.word32 region.bytes start) :=
  (reads_fetch inside devices processes).bind fun bytes => Reads.pure (UInt32.ofNat (value bytes))

theorem reads_int32 (inside : start + 4 ≤ Layout.size) (devices : start ≠ Layout.deviceCount)
    (processes : start ≠ Layout.processCount) :
    Reads (int32 start) fun region => .ok (Region.int32 region.bytes start) :=
  (reads_fetch inside devices processes).bind fun bytes => Reads.pure (intOf bytes)

/-- Reads a count and checks it. -/
theorem reads_checked {good : List UInt8 → Prop} [DecidablePred good] (count : List UInt8 → α)
    (reason : List UInt8 → String) (inside : start + length ≤ Layout.size)
    (bad : ∀ bytes, IsBadCount ⟨.fetch start length, bytes⟩ ↔ ¬ good bytes) :
    Reads
      (fetch start length >>= fun bytes =>
        if good bytes then Pure.pure (count bytes) else throw (.layoutViolation (reason bytes)))
      fun region => if good (bytesAt region.bytes start length) then .ok (count (bytesAt region.bytes start length))
        else .error (.layoutViolation (reason (bytesAt region.bytes start length))) where
  inside := by
    refine ⟨inside, fun bytes => ?_⟩
    change Asks (I := interface) IsInside (ExceptT.run (if good bytes then _ else _))
    split <;> trivial
  suits := by
    intro exchanges outcome ends
    obtain ⟨e, rfl, fails⟩ | ⟨bytes, earlier, later, rfl, begins, goesOn⟩ := Attempt.ends_bind.1 ends
    · obtain ⟨answer, rest, rfl, rfl, wrong⟩ := fails
      cases wrong
    · obtain ⟨answer, rest, rfl, rfl, same⟩ := begins
      cases same
      by_cases fits : good bytes
      · rw [if_pos fits] at goesOn
        obtain ⟨rfl, rfl⟩ := goesOn
        exact List.forall_mem_singleton.2 fun wrong => (bad bytes).1 wrong fits
      · rw [if_neg fits] at goesOn
        obtain ⟨rfl, rfl⟩ := goesOn
        exact ⟨_, List.mem_cons_self, (bad bytes).2 fits⟩
  agrees region := by
    change Program.run (I := interface) serve
      (ExceptT.run (if good (bytesAt region.bytes start length) then _ else _)) region = _
    split <;> rfl

theorem reads_deviceCount : Reads deviceCount Region.deviceCount := by
  have bad (bytes : List UInt8) : IsBadCount ⟨.fetch Layout.deviceCount 8, bytes⟩ ↔
      ¬ (wordOf bytes).toNat ≤ Layout.maxDevices := by
    have apart : Layout.deviceCount ≠ Layout.processCount := by decide
    simp [IsBadCount, apart]
  exact reads_checked (fun bytes => (wordOf bytes).toNat) _ (by decide) bad

theorem reads_processCount : Reads processCount Region.processCount := by
  have bad (bytes : List UInt8) : IsBadCount ⟨.fetch Layout.processCount 4, bytes⟩ ↔
      ¬ (0 ≤ (intOf bytes).toInt ∧ (intOf bytes).toInt ≤ Layout.maxProcesses) := by
    have apart : Layout.processCount ≠ Layout.deviceCount := by decide
    simp only [IsBadCount, apart, false_and, true_and, false_or]
    omega
  exact reads_checked (fun bytes => (intOf bytes).toInt.toNat) _ (by decide) bad

/-! ## All readers -/

theorem reads_validate : Reads validate Region.validate :=
  reads_deviceCount.bind fun _ => reads_processCount.bind fun _ => Reads.pure ()

theorem reads_isSet (inside : start + 4 ≤ Layout.size) (devices : start ≠ Layout.deviceCount)
    (processes : start ≠ Layout.processCount) :
    Reads (isSet start) fun region => .ok (Region.int32 region.bytes start != 0) :=
  (reads_int32 inside devices processes).bind fun flag => Reads.pure (flag != 0)

-- The counts have their places for themselves.
theorem start_ne_counts {place : Place} (valid : place.IsValid) (noCount : ¬ place.IsCount) :
    place.start ≠ Layout.deviceCount ∧ place.start ≠ Layout.processCount := by
  have devices : Layout.deviceCount = 48 := rfl
  have processes : Layout.processCount = 804664 := rfl
  rw [devices, processes]
  cases place with
  | process slot part =>
    have inTable := Place.process_bounds valid
    have length : 0 < (Place.process slot part).length := by
      cases part <;> exact Nat.zero_lt_succ _
    omega
  | deviceCount => exact absurd trivial noCount
  | processCount => exact absurd trivial noCount
  | _ =>
    simp only [Place.IsValid, Place.start_eq, Layout.maxDevices] at valid ⊢
    omega

section Places

variable {place : Place} (valid : place.IsValid) (noCount : ¬ place.IsCount) (here : start = place.start)
include valid noCount here

theorem reads_place (whole : place.length = length) :
    Reads (fetch start length) fun region => .ok (bytesAt region.bytes start length) := by
  subst here whole
  exact reads_fetch (Place.bounds valid).2 (start_ne_counts valid noCount).1 (start_ne_counts valid noCount).2

theorem reads_word64_place (whole : place.length = 8) :
    Reads (word64 start) fun region => .ok (Region.word64 region.bytes start) :=
  (reads_place valid noCount here whole).bind fun bytes => Reads.pure (wordOf bytes)

theorem reads_int32_place (whole : place.length = 4) :
    Reads (int32 start) fun region => .ok (Region.int32 region.bytes start) :=
  (reads_place valid noCount here whole).bind fun bytes => Reads.pure (intOf bytes)

end Places

theorem reads_slotUuid {index : Nat} (inTable : index < Layout.maxDevices) :
    Reads (slotUuid index) fun region => .ok (region.slotUuid index) :=
  have valid : (Place.uuid index).IsValid := inTable
  (reads_place valid not_false rfl rfl).bind fun _ => Reads.pure _

-- A list of readings that cannot fail.
theorem mapM_ok_bind {l : List ι} (f : ι → α) (g : List α → Except RegionError β) :
    (l.mapM fun i => (.ok (f i) : Except RegionError α)) >>= g = g (l.map f) := by
  rw [mapM_ok (g := f) fun _ _ => rfl]
  rfl

theorem reads_deviceUuids : Reads deviceUuids fun region => .ok region.deviceUuids := by
  have slots := Reads.mapM fun index member => reads_slotUuid (List.mem_range.1 member)
  refine (slots.bind fun uuids => Reads.pure (uuids.filterMap id)).congr fun region => ?_
  rw [mapM_ok_bind, List.filterMap_map]
  rfl

theorem reads_memoryAt {slot device : Nat} (inTable : slot < Layout.maxProcesses) (granted : device < Layout.maxDevices)
    (here : start = Layout.processes + slot * Layout.processLength + Layout.used + device * Layout.memoryLength) :
    Reads (memoryAt start) fun region => .ok (Region.memoryAt region.bytes start) := by
  have number (position n : Nat) (small : n < 5) (nth : position = start + n * 8) :
      Reads (word64 position) fun region => .ok (Region.word64 region.bytes position) := by
    have valid : (Place.process slot (.memory device n)).IsValid := ⟨inTable, granted, small⟩
    refine reads_word64_place valid not_false ?_ rfl
    rw [nth, here, Place.start, Part.offset]
    omega
  have record := (number start 0 (by decide) rfl).bind fun context =>
    (number (start + 8) 1 (by decide) rfl).bind fun modules =>
      (number (start + 16) 2 (by decide) rfl).bind fun buffer =>
        (number (start + 24) 3 (by decide) rfl).bind fun offset =>
          (number (start + 32) 4 (by decide) rfl).bind fun total =>
            Reads.pure (DeviceMemory.mk context modules buffer offset total)
  exact record.congr fun region => rfl

theorem reads_processAt {slot : Nat} (inTable : slot < Layout.maxProcesses)
    (here : start = Layout.processes + slot * Layout.processLength) :
    Reads (processAt start) fun region => .ok (Region.processAt region.bytes start) := by
  have memory : ∀ device ∈ List.range Layout.maxDevices,
      Reads (memoryAt (start + Layout.used + device * Layout.memoryLength)) fun region =>
        .ok (Region.memoryAt region.bytes (start + Layout.used + device * Layout.memoryLength)) :=
    fun device member => reads_memoryAt inTable (List.mem_range.1 member) (by rw [here])
  have monitorUsed : ∀ device ∈ List.range Layout.maxDevices,
      Reads (word64 (start + Layout.monitorUsed + device * 8)) fun region =>
        .ok (Region.word64 region.bytes (start + Layout.monitorUsed + device * 8)) := fun device member => by
    have valid : (Place.process slot (.monitorUsed device)).IsValid := ⟨inTable, List.mem_range.1 member⟩
    exact reads_word64_place valid not_false (by rw [here, Place.start, Part.offset, Nat.add_assoc]) rfl
  have part (part : Part) (length : part.length = 4) (valid : part.IsValid) :
      Reads (int32 (start + part.offset)) fun region => .ok (Region.int32 region.bytes (start + part.offset)) := by
    have inSlot : (Place.process slot part).IsValid := ⟨inTable, valid⟩
    exact reads_int32_place inSlot not_false (by rw [here, Place.start]) length
  have slot := (Reads.mapM memory).bind fun memory => (Reads.mapM monitorUsed).bind fun monitorUsed =>
    (part .pid rfl trivial).bind fun pid => (part .hostPid rfl trivial).bind fun hostPid =>
      (part .status rfl trivial).bind fun status => Reads.pure (ProcessSlot.mk pid hostPid memory monitorUsed status)
  refine slot.congr fun region => ?_
  rw [mapM_ok_bind, mapM_ok_bind]
  rfl

theorem reads_process {index : Nat} (inTable : index < Layout.maxProcesses) :
    Reads (process index) (Region.process · index) := by
  have reads := reads_processAt inTable rfl
  unfold process
  rw [if_pos inTable]
  exact reads.congr fun region => (if_pos inTable).symm

theorem gives_processCount : processCount.run.Gives fun outcome =>
    ∀ count, outcome = .ok count → count ≤ Layout.maxProcesses := by
  intro answer
  change Gives (I := interface) _ (ExceptT.run (if 0 ≤ (intOf answer).toInt ∧
    (intOf answer).toInt ≤ Layout.maxProcesses then _ else _))
  split
  · next fits =>
    rintro count same
    cases same
    omega
  · rintro count same
    cases same

theorem reads_processes : Reads processes Region.processes :=
  reads_processCount.bind_of gives_processCount fun _ fits =>
    Reads.mapM fun _ member => reads_process (Nat.lt_of_lt_of_le (List.mem_range.1 member) fits)

end Reads

/-! ## Writing a counter -/

section Writes

variable {start : Nat} {value : Int32}

theorem asks_putInt32 (fits : start + 4 ≤ Layout.size) (value : Int32) :
    (putInt32 start value).run.Asks IsInside := by
  refine ⟨?_, fun _ => trivial⟩
  rw [IsInside, little_length]
  exact fits

theorem suits_putInt32 {exchanges : List (Exchange interface)} {outcome : Except RegionError Unit}
    (ends : (putInt32 start value).run.Ends exchanges outcome) : Suits exchanges outcome := by
  obtain ⟨answer, rest, rfl, rfl, rfl⟩ := ends
  exact List.forall_mem_singleton.2 id

theorem run_putInt32 (region : Region) :
    (putInt32 start value).run.run serve region = (.ok (), region.putCounter start value) := rfl

end Writes

/-! ## What lies outside -/

section Outside

variable {α : Type} {program : Program interface α} {first second : Region}

/-- Two regions have the same bytes, as far as every region has bytes. -/
def SameHead (first second : Region) : Prop := ∀ i < Layout.size, byteAt first.bytes i = byteAt second.bytes i

theorem SameHead.bytesAt (same : SameHead first second) {start length : Nat} (inside : start + length ≤ Layout.size) :
    bytesAt first.bytes start length = Region.bytesAt second.bytes start length :=
  bytesAt_congr fun i _ most => same i (by omega)

theorem byteAt_putBytes_of_inside {bytes others : ByteArray} {start i : Nat} {written : List UInt8}
    (inside : i < bytes.size) (also : i < others.size) (same : byteAt bytes i = byteAt others i) :
    byteAt (putBytes bytes start written) i = byteAt (putBytes others start written) i := by
  induction written generalizing bytes others start with
  | nil => exact same
  | cons b rest ih =>
    refine ih (by rwa [size_setByte]) (by rwa [size_setByte]) ?_
    by_cases here : start = i
    · subst here
      rw [byteAt_setByte_self b inside, byteAt_setByte_self b also]
    · rw [byteAt_setByte_of_ne b here, byteAt_setByte_of_ne b here, same]

theorem SameHead.put (same : SameHead first second) (start : Nat) (written : List UInt8) :
    SameHead (first.put start written) (second.put start written) := fun i inside =>
  byteAt_putBytes_of_inside (Nat.lt_of_lt_of_le inside first.fits) (Nat.lt_of_lt_of_le inside second.fits)
    (same i inside)

-- A program that keeps inside does not notice what lies outside.
theorem run_congr (asks : program.Asks IsInside) (same : SameHead first second) :
    (program.run serve first).1 = (program.run serve second).1 := by
  induction program generalizing first second with
  | done a => rfl
  | ask request next ih =>
    obtain ⟨inside, later⟩ := asks
    cases request with
    | fetch start length =>
      have answer := same.bytesAt inside
      show ((next (Region.bytesAt first.bytes start length)).run serve first).1 = _
      rw [answer]
      exact ih _ (later _) same
    | store start written => exact ih _ (later _) (same.put start written)

-- It does not change it either.
theorem run_outside (asks : program.Asks IsInside) (region : Region) {i : Nat} (outside : Layout.size ≤ i) :
    byteAt (program.run serve region).2.bytes i = byteAt region.bytes i := by
  induction program generalizing region with
  | done a => rfl
  | ask request next ih =>
    obtain ⟨inside, later⟩ := asks
    cases request with
    | fetch start length => exact ih _ (later _) region
    | store start written =>
      refine (ih _ (later _) (region.put start written)).trans ?_
      exact byteAt_putBytes_of_ge (Nat.le_trans inside outside)

end Outside

end GpuShare.Region.Access
