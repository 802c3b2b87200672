import Mathlib.Data.List.Forall2
import GpuShare.Agent.Monitor
import GpuShare.Proofs.Traversal
import GpuShare.Proofs.Agent.ListerUpdate
import GpuShare.Proofs.Region.Access
import GpuShare.Region.Report

/-!
Using a region never fails but for its contents. Bytes are taken as a region unless they are too few. Each operation
on a region keeps inside the bytes that it has, refuses an index beyond its table, and fails for a count beyond its
table, whatever becomes of the bytes meanwhile. So a file that stays as it is can be shown whenever it can be opened.
-/

set_option autoImplicit false

namespace GpuShare.Region

open Text

section Opening

variable {bytes : ByteArray}

theorem ofBytes_of_short (short : bytes.size < Layout.size) : ofBytes bytes = .error (.truncated bytes.size) :=
  dif_neg (Nat.not_le_of_lt short)

theorem ofBytes_of_fits (fits : Layout.size ≤ bytes.size) :
    (∃ region, ofBytes bytes = .ok region) ∨ ∃ reason, ofBytes bytes = .error (.layoutViolation reason) := by
  have opened : ofBytes bytes = (validate ⟨bytes, fits⟩).map fun _ => ⟨bytes, fits⟩ := dif_pos fits
  by_cases valid : (Region.mk bytes fits).HasValidHeader
  · rw [opened, validate_of_valid valid]
    exact .inl ⟨_, rfl⟩
  · obtain ⟨reason, refused⟩ := validate_of_not_valid valid
    rw [opened, refused]
    exact .inr ⟨reason, rfl⟩

theorem truncated_iff : (∃ length, ofBytes bytes = .error (.truncated length)) ↔ bytes.size < Layout.size := by
  refine ⟨fun ⟨length, refused⟩ => ?_, fun short => ⟨_, ofBytes_of_short short⟩⟩
  by_contra long
  obtain ⟨region, opened⟩ | ⟨reason, violated⟩ := ofBytes_of_fits (Nat.le_of_not_lt long)
  · rw [refused] at opened
    cases opened
  · rw [refused] at violated
    cases violated

end Opening

/-! ## Operations -/

inductive Operation where
  | validate
  | isInitialized
  | isSmInitialized
  | ownerPid
  | deviceCount
  | deviceUuid (index : Nat)
  | deviceUuids
  | memoryLimit (index : Nat)
  | coreLimit (index : Nat)
  | processCount
  | process (index : Nat)
  | processes
  | utilizationSwitch
  | recentKernel
  | priority
  | setRecentKernel (value : Int32)
  | setUtilizationSwitch (value : Int32)
  deriving Repr, DecidableEq

namespace Operation

abbrev Value : Operation → Type
  | validate | setRecentKernel _ | setUtilizationSwitch _ => Unit
  | isInitialized | isSmInitialized => Bool
  | ownerPid => UInt32
  | deviceCount | processCount => Nat
  | deviceUuid _ => Option String
  | deviceUuids => List String
  | memoryLimit _ | coreLimit _ => UInt64
  | process _ => ProcessSlot
  | processes => List ProcessSlot
  | utilizationSwitch | recentKernel | priority => Int32

def program : (operation : Operation) → Access.Reader operation.Value
  | validate => Access.validate
  | isInitialized => Access.isSet Layout.initialized
  | isSmInitialized => Access.isSet Layout.smInitialized
  | ownerPid => Access.word32 Layout.ownerPid
  | deviceCount => Access.deviceCount
  | deviceUuid index => Access.ofDevice index (Access.slotUuid index)
  | deviceUuids => Access.deviceUuids
  | memoryLimit index => Access.ofDevice index (Access.word64 (Layout.memoryLimits + index * 8))
  | coreLimit index => Access.ofDevice index (Access.word64 (Layout.coreLimits + index * 8))
  | processCount => Access.processCount
  | process index => Access.process index
  | processes => Access.processes
  | utilizationSwitch => Access.int32 Layout.utilizationSwitch
  | recentKernel => Access.int32 Layout.recentKernel
  | priority => Access.int32 Layout.priority
  | setRecentKernel value => Access.putInt32 Layout.recentKernel value
  | setUtilizationSwitch value => Access.putInt32 Layout.utilizationSwitch value

def result (region : Region) : (operation : Operation) → Except RegionError operation.Value
  | validate => region.validate
  | isInitialized => .ok region.isInitialized
  | isSmInitialized => .ok region.isSmInitialized
  | ownerPid => .ok region.ownerPid
  | deviceCount => region.deviceCount
  | deviceUuid index => region.deviceUuid index
  | deviceUuids => .ok region.deviceUuids
  | memoryLimit index => region.memoryLimit index
  | coreLimit index => region.coreLimit index
  | processCount => region.processCount
  | process index => region.process index
  | processes => region.processes
  | utilizationSwitch => .ok region.utilizationSwitch
  | recentKernel => .ok region.recentKernel
  | priority => .ok region.priority
  | setRecentKernel _ | setUtilizationSwitch _ => .ok ()

def after (region : Region) : Operation → Region
  | setRecentKernel value => region.setRecentKernel value
  | setUtilizationSwitch value => region.setUtilizationSwitch value
  | _ => region

/-- Why the operation is refused, if its index lies beyond the table. -/
def refusal? : Operation → Option RegionError
  | deviceUuid index | memoryLimit index | coreLimit index =>
    if index < Layout.maxDevices then none else some (.indexOutOfBounds "device" index Layout.maxDevices)
  | process index =>
    if index < Layout.maxProcesses then none else some (.indexOutOfBounds "process" index Layout.maxProcesses)
  | _ => none

/-- An operation keeps inside the bytes of a region, fails just if it has to, and does what it does. -/
structure IsTotal (operation : Operation) : Prop where
  inside : operation.program.run.Asks Access.IsInside
  refused : ∀ refusal, operation.refusal? = some refusal → ∀ exchanges outcome,
    operation.program.run.Ends exchanges outcome → exchanges = [] ∧ outcome = .error refusal
  suits : operation.refusal? = none → ∀ exchanges outcome, operation.program.run.Ends exchanges outcome →
    Access.Suits exchanges outcome
  agrees : ∀ region : Region, operation.program.run.run Access.serve region =
    (operation.result region, operation.after region)

variable {operation : Operation}

theorem isTotal_of_reads (reads : Access.Reads operation.program operation.result) (free : operation.refusal? = none)
    (keeps : ∀ region, operation.after region = region) : operation.IsTotal where
  inside := reads.inside
  refused refusal refuses := by
    rw [free] at refuses
    cases refuses
  suits _ := reads.suits
  agrees region := by
    rw [keeps]
    exact reads.agrees region

theorem isTotal_of_refusal {refusal : RegionError} (stops : operation.program = throw refusal)
    (refuses : operation.refusal? = some refusal) (tells : ∀ region, operation.result region = .error refusal)
    (keeps : ∀ region, operation.after region = region) : operation.IsTotal where
  inside := by
    rw [stops]
    trivial
  refused other same exchanges outcome ends := by
    rw [stops] at ends
    rw [refuses] at same
    cases same
    exact ends
  suits free := by
    rw [refuses] at free
    cases free
  agrees region := by
    rw [stops, tells, keeps]
    rfl

/-- Reading a device slot. -/
theorem isTotal_ofDevice {index : Nat} {reader : Access.Reader operation.Value}
    (is : operation.program = Access.ofDevice index reader)
    (refuses : operation.refusal? = if index < Layout.maxDevices then none
      else some (.indexOutOfBounds "device" index Layout.maxDevices))
    {value : Region → operation.Value}
    (tells : ∀ region, operation.result region = (checkDevice index).map fun _ => value region)
    (keeps : ∀ region, operation.after region = region)
    (reads : index < Layout.maxDevices → Access.Reads reader fun region => .ok (value region)) :
    operation.IsTotal := by
  by_cases inTable : index < Layout.maxDevices
  · refine isTotal_of_reads ?_ (refuses.trans (if_pos inTable)) keeps
    rw [is, Access.ofDevice, if_pos inTable]
    refine (reads inTable).congr fun region => ?_
    rw [tells, checkDevice, if_pos inTable]
    rfl
  · refine isTotal_of_refusal ?_ (refuses.trans (if_neg inTable)) (fun region => ?_) keeps
    · rw [is, Access.ofDevice, if_neg inTable]
    · rw [tells, checkDevice, if_neg inTable]
      rfl

theorem isTotal_process (index : Nat) : (process index).IsTotal := by
  by_cases inTable : index < Layout.maxProcesses
  · exact isTotal_of_reads (Access.reads_process inTable) (if_pos inTable) fun _ => rfl
  · exact isTotal_of_refusal (if_neg inTable) (if_neg inTable) (fun _ => if_neg inTable) fun _ => rfl

theorem isTotal (operation : Operation) : operation.IsTotal := by
  cases operation with
  | validate => exact isTotal_of_reads Access.reads_validate rfl fun _ => rfl
  | isInitialized | isSmInitialized =>
    exact isTotal_of_reads (Access.reads_isSet (by decide) (by decide) (by decide)) rfl fun _ => rfl
  | ownerPid =>
    exact isTotal_of_reads (Access.reads_word32 (by decide) (by decide) (by decide)) rfl fun _ => rfl
  | deviceCount => exact isTotal_of_reads Access.reads_deviceCount rfl fun _ => rfl
  | deviceUuid index =>
    exact isTotal_ofDevice rfl rfl (fun _ => rfl) (fun _ => rfl) fun inTable => Access.reads_slotUuid inTable
  | deviceUuids => exact isTotal_of_reads Access.reads_deviceUuids rfl fun _ => rfl
  | memoryLimit index =>
    refine isTotal_ofDevice rfl rfl (fun _ => rfl) (fun _ => rfl) fun inTable => ?_
    have valid : (Place.memoryLimit index).IsValid := inTable
    exact Access.reads_word64_place valid not_false rfl rfl
  | coreLimit index =>
    refine isTotal_ofDevice rfl rfl (fun _ => rfl) (fun _ => rfl) fun inTable => ?_
    have valid : (Place.coreLimit index).IsValid := inTable
    exact Access.reads_word64_place valid not_false rfl rfl
  | processCount => exact isTotal_of_reads Access.reads_processCount rfl fun _ => rfl
  | process index => exact isTotal_process index
  | processes => exact isTotal_of_reads Access.reads_processes rfl fun _ => rfl
  | utilizationSwitch | recentKernel | priority =>
    exact isTotal_of_reads (Access.reads_int32 (by decide) (by decide) (by decide)) rfl fun _ => rfl
  | setRecentKernel value | setUtilizationSwitch value =>
    exact ⟨Access.asks_putInt32 (by decide) value, nofun, fun _ _ _ => Access.suits_putInt32, Access.run_putInt32⟩

theorem result_congr (operation : Operation) {first second : Region} (same : Access.SameHead first second) :
    operation.result first = operation.result second := by
  have total := operation.isTotal
  have results := Access.run_congr total.inside same
  rwa [total.agrees, total.agrees] at results

theorem after_outside (operation : Operation) (region : Region) {i : Nat} (outside : Layout.size ≤ i) :
    byteAt (operation.after region).bytes i = byteAt region.bytes i := by
  have total := operation.isTotal
  have keeps := Access.run_outside total.inside region outside
  rwa [total.agrees] at keeps

end Operation

/-! ## Showing a file -/

section Shown

variable {region : Region} {name : String} {path : Path} {withProcesses : Bool}

theorem deviceCount_of_valid (valid : region.HasValidHeader) :
    ∃ count, region.deviceCount = .ok count ∧ count ≤ Layout.maxDevices := by
  unfold deviceCount
  dsimp only
  rw [if_pos valid.1]
  exact ⟨_, rfl, valid.1⟩

theorem processCount_of_valid (valid : region.HasValidHeader) :
    ∃ count, region.processCount = .ok count ∧ count ≤ Layout.maxProcesses := by
  have most := valid.2.2
  unfold processCount
  dsimp only
  rw [if_pos valid.2]
  exact ⟨_, rfl, by omega⟩

theorem deviceLine_of_granted {index : Nat} (inTable : index < Layout.maxDevices) :
    ∃ line, region.deviceLine index = .ok line := by
  have checked : checkDevice index = .ok () := if_pos inTable
  rw [deviceLine, deviceUuid, memoryLimit, coreLimit, checked]
  exact ⟨_, rfl⟩

theorem process_of_counted {index : Nat} (inTable : index < Layout.maxProcesses) :
    ∃ slot, region.process index = .ok slot := ⟨_, if_pos inTable⟩

theorem lengths_process {index : Nat} {slot : ProcessSlot} (reads : region.process index = .ok slot) :
    slot.memory.length = Layout.maxDevices ∧ slot.monitorUsed.length = Layout.maxDevices := by
  unfold process at reads
  split at reads
  · cases reads
    simp [processAt]
  · cases reads

/-- The lines on a region: one for each granted device and, if they are asked for, one for each counted process, which
has an entry for each granted device. -/
inductive Reports (region : Region) (path : Path) (withProcesses : Bool) : List String → Prop where
  | intro {devices processes : Nat} {deviceLines : List String} {slots : List ProcessSlot} :
      region.deviceCount = .ok devices → region.processCount = .ok processes →
      List.Forall₂ (fun index line => region.deviceLine index = .ok line) (List.range devices) deviceLines →
      List.Forall₂ (fun index slot => region.process index = .ok slot ∧ devices ≤ slot.memory.length ∧
        devices ≤ slot.monitorUsed.length) (List.range processes) slots →
      Reports region path withProcesses
        (["Opening shared region at " ++ path.text, region.headerLine path.text,
            "Shared region contains " ++ decimal devices ++ " devices"] ++ deviceLines ++
          [region.countersLine, "Process slots in use: " ++ decimal processes] ++
          if withProcesses then slots.map (processLine devices) else [])

theorem shown_of_valid (valid : region.HasValidHeader) (path : Path) (withProcesses : Bool) :
    (shown path (.ok region) withProcesses).failure = none ∧
      Reports region path withProcesses (shown path (.ok region) withProcesses).lines := by
  obtain ⟨devices, granted, fewDevices⟩ := deviceCount_of_valid valid
  obtain ⟨processes, counted, fewProcesses⟩ := processCount_of_valid valid
  obtain ⟨deviceLines, linesRead⟩ : ∃ lines, (List.range devices).mapM region.deviceLine = .ok lines :=
    exists_mapM_eq_ok.2 fun index member =>
      deviceLine_of_granted (Nat.lt_of_lt_of_le (List.mem_range.1 member) fewDevices)
  obtain ⟨slots, slotsRead⟩ : ∃ slots, (List.range processes).mapM region.process = .ok slots :=
    exists_mapM_eq_ok.2 fun index member =>
      process_of_counted (Nat.lt_of_lt_of_le (List.mem_range.1 member) fewProcesses)
  have lines := mapM_eq_ok.1 linesRead
  have each := mapM_eq_ok.1 slotsRead
  have processesRead : region.processes = .ok slots := by
    rw [Region.processes, counted]
    exact slotsRead
  have used : slots.length = processes := by rw [← each.length_eq, List.length_range]
  have long := each.imp fun index slot (reads : region.process index = .ok slot) =>
    have ⟨memory, monitorUsed⟩ := lengths_process reads
    And.intro reads (And.intro (memory ▸ fewDevices) (monitorUsed ▸ fewDevices))
  have report : region.report path.text withProcesses = .ok
      ([region.headerLine path.text, "Shared region contains " ++ decimal devices ++ " devices"] ++ deviceLines ++
        [region.countersLine, "Process slots in use: " ++ decimal processes] ++
        if withProcesses then slots.map (processLine devices) else []) := by
    rw [Region.report, granted, ← used]
    simp only [bind, Except.bind, linesRead, processesRead]
    rfl
  have lists : Reports region path withProcesses _ := .intro granted counted lines long
  rw [shown, report]
  exact ⟨rfl, lists⟩

def openedAt (disk : Disk) (path : Path) : Except RegionError Region :=
  (Agent.World.mapRegion disk path).map fun content => (Agent.contentPlace content).load disk

theorem hasValidHeader_of_openedAt {disk : Disk} (opened : openedAt disk path = .ok region) :
    region.HasValidHeader := by
  unfold openedAt at opened
  cases maps : Agent.World.mapRegion disk path with
  | error e =>
    rw [maps] at opened
    cases opened
  | ok content =>
    rw [maps] at opened
    cases opened
    exact (Agent.isSound_of_mapRegion maps).2.2

inductive ShowsFile (path : Path) (withProcesses : Bool) : Except RegionError Region → Shown → Prop where
  | refused (error : RegionError) : ShowsFile path withProcesses (.error error)
      ⟨["Opening shared region at " ++ path.text], some ("failed to open " ++ path.text ++ ": " ++ failureText error)⟩
  | reported {region : Region} {lines : List String} : Reports region path withProcesses lines →
      ShowsFile path withProcesses (.ok region) ⟨lines, none⟩

theorem showsFile (disk : Disk) (path : Path) (withProcesses : Bool) :
    ShowsFile path withProcesses (openedAt disk path) (shown path (openedAt disk path) withProcesses) := by
  cases opened : openedAt disk path with
  | error error => exact .refused error
  | ok region =>
    obtain ⟨fine, reports⟩ := shown_of_valid (hasValidHeader_of_openedAt opened) path withProcesses
    generalize shown path (.ok region) withProcesses = shown at fine reports ⊢
    obtain ⟨lines, failure⟩ := shown
    obtain rfl : failure = none := fine
    exact .reported reports

theorem ShowsFile.exitCode_iff {opened : Except RegionError Region} {shown : Shown}
    (shows : ShowsFile path withProcesses opened shown) : shown.exitCode = 0 ↔ ∃ region, opened = .ok region := by
  cases shows <;> simp [Shown.exitCode]

end Shown

/-- A byte string is taken as a region unless it is too short, or its counts do not fit. Every operation on a region
keeps inside the bytes that every region has and fails only for an index or a count beyond its table, also if the bytes
change at any time. A file that does not change is shown to the end if it can be opened. -/
theorem access_is_total :
    (∀ bytes : ByteArray, ((∃ length, ofBytes bytes = .error (.truncated length)) ↔ bytes.size < Layout.size) ∧
      (Layout.size ≤ bytes.size →
        (∃ region, ofBytes bytes = .ok region) ∨ ∃ reason, ofBytes bytes = .error (.layoutViolation reason))) ∧
      (∀ operation : Operation, operation.IsTotal ∧
        (∀ first second, Access.SameHead first second → operation.result first = operation.result second) ∧
        ∀ region i, Layout.size ≤ i → byteAt (operation.after region).bytes i = byteAt region.bytes i) ∧
      ∀ disk path withProcesses,
        ShowsFile path withProcesses (openedAt disk path) (shown path (openedAt disk path) withProcesses) ∧
          ((shown path (openedAt disk path) withProcesses).exitCode = 0 ↔
            ∃ region, openedAt disk path = .ok region) :=
  ⟨fun _ => ⟨truncated_iff, ofBytes_of_fits⟩,
    fun operation =>
      ⟨operation.isTotal, fun _ _ => operation.result_congr, fun region _ => operation.after_outside region⟩,
    fun disk path withProcesses =>
      have shows := showsFile disk path withProcesses
      ⟨shows, shows.exitCode_iff⟩⟩

-- A count that has become too large since the region was taken, and an index beyond its table.
theorem access_is_total_hostile :
    ∃ reason, (Operation.program .processes).run.Ends [⟨.fetch Layout.processCount 4, [255, 255, 255, 127]⟩]
        (.error (.layoutViolation reason)) ∧
      Access.Suits [⟨.fetch Layout.processCount 4, [255, 255, 255, 127]⟩]
        (.error (.layoutViolation reason) : Except RegionError (List ProcessSlot)) ∧
      Operation.refusal? (.deviceUuid 16) = some (.indexOutOfBounds "device" 16 16) ∧
      ∀ exchanges outcome, (Operation.program (.deviceUuid 16)).run.Ends exchanges outcome →
        exchanges = [] ∧ outcome = .error (.indexOutOfBounds "device" 16 16) := by
  obtain ⟨-, total, -⟩ := access_is_total
  have ends : (Operation.program .processes).run.Ends [⟨.fetch Layout.processCount 4, [255, 255, 255, 127]⟩]
      (.error (.layoutViolation _)) := ⟨_, _, rfl, rfl, rfl⟩
  exact ⟨_, ends, (total .processes).1.suits rfl _ _ ends, rfl, (total (.deviceUuid 16)).1.refused _ rfl⟩

end GpuShare.Region
