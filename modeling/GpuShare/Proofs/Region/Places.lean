import GpuShare.Proofs.Region.Signals
import GpuShare.Region.Image

/-!
The places of a region that a builder fills or a reader reads, and logs of writes to them. No two places share a
byte, so what is read at a place is what was written to it last.
-/

set_option autoImplicit false

namespace GpuShare.Region

inductive Part where
  | pid
  | hostPid
  | memory (device number : Nat)
  | monitorUsed (device : Nat)
  | status
  deriving Repr, DecidableEq

namespace Part

def offset : Part → Nat
  | pid => Layout.pid
  | hostPid => Layout.hostPid
  | memory device number => Layout.used + device * Layout.memoryLength + number * 8
  | monitorUsed device => Layout.monitorUsed + device * 8
  | status => Layout.status

def length : Part → Nat
  | pid | hostPid | status => 4
  | memory .. | monitorUsed _ => 8

def IsValid : Part → Prop
  | pid | hostPid | status => True
  | memory device number => device < Layout.maxDevices ∧ number < 5
  | monitorUsed device => device < Layout.maxDevices

variable {first second : Part}

theorem inside (valid : first.IsValid) : first.offset + first.length ≤ Layout.processLength := by
  cases first <;>
    simp only [IsValid, offset, length, Layout.pid, Layout.hostPid, Layout.used, Layout.monitorUsed, Layout.status,
      Layout.maxDevices, Layout.memoryLength, Layout.processLength] at valid ⊢ <;>
    omega

theorem apart (valid : first.IsValid) (other : second.IsValid) (differ : first ≠ second) :
    first.offset + first.length ≤ second.offset ∨ second.offset + second.length ≤ first.offset := by
  cases first <;> cases second <;>
    simp only [IsValid, offset, length, Layout.pid, Layout.hostPid, Layout.used, Layout.monitorUsed, Layout.status,
      Layout.maxDevices, Layout.memoryLength, ne_eq, not_true_eq_false, memory.injEq, monitorUsed.injEq, not_and_or]
      at valid other differ ⊢ <;>
    omega

end Part

inductive Place where
  | deviceCount
  | uuid (slot : Nat)
  | memoryLimit (slot : Nat)
  | coreLimit (slot : Nat)
  | process (slot : Nat) (part : Part)
  | processCount
  | utilizationSwitch
  | recentKernel
  | priority
  deriving Repr, DecidableEq

namespace Place

def start : Place → Nat
  | deviceCount => Layout.deviceCount
  | uuid slot => Layout.uuids + slot * Layout.uuidLength
  | memoryLimit slot => Layout.memoryLimits + slot * 8
  | coreLimit slot => Layout.coreLimits + slot * 8
  | process slot part => Layout.processes + slot * Layout.processLength + part.offset
  | processCount => Layout.processCount
  | utilizationSwitch => Layout.utilizationSwitch
  | recentKernel => Layout.recentKernel
  | priority => Layout.priority

def length : Place → Nat
  | deviceCount | memoryLimit _ | coreLimit _ => 8
  | uuid _ => Layout.uuidLength
  | process _ part => part.length
  | processCount | utilizationSwitch | recentKernel | priority => 4

def IsValid : Place → Prop
  | uuid slot | memoryLimit slot | coreLimit slot => slot < Layout.maxDevices
  | process slot part => slot < Layout.maxProcesses ∧ part.IsValid
  | deviceCount | processCount | utilizationSwitch | recentKernel | priority => True

def IsCount : Place → Prop
  | deviceCount | processCount => True
  | uuid _ | memoryLimit _ | coreLimit _ | process .. | utilizationSwitch | recentKernel | priority => False

variable {place other : Place}

-- The positions in numbers, as linear arithmetic wants them.
theorem start_eq (place : Place) : place.start = match place with
    | deviceCount => 48
    | uuid slot => 56 + slot * 96
    | memoryLimit slot => 1592 + slot * 8
    | coreLimit slot => 1720 + slot * 8
    | process slot part => 1848 + slot * 784 + part.offset
    | processCount => 804664
    | utilizationSwitch => 804668
    | recentKernel => 804672
    | priority => 804676 := by
  cases place <;> rfl

/-- A process slot lies in the process table. -/
theorem process_bounds {slot : Nat} {part : Part} (valid : (process slot part).IsValid) :
    1848 ≤ (process slot part).start ∧ (process slot part).start + (process slot part).length ≤ 804664 := by
  have inside := part.inside valid.2
  simp only [IsValid, start_eq, length, Layout.processLength, Layout.maxProcesses] at valid inside ⊢
  omega

-- All places lie behind the flags at the head.
theorem bounds (valid : place.IsValid) :
    Layout.initialized + 4 ≤ place.start ∧ place.start + place.length ≤ Layout.size := by
  rw [Layout.size_eq, Layout.initialized]
  cases place with
  | process slot part =>
    have inTable := process_bounds valid
    omega
  | _ =>
    simp only [IsValid, start_eq, length, Layout.maxDevices, Layout.uuidLength] at valid ⊢
    omega

/-- Different places share no byte. -/
theorem apart (valid : place.IsValid) (otherValid : other.IsValid) (differ : place ≠ other) :
    place.start + place.length ≤ other.start ∨ other.start + other.length ≤ place.start := by
  cases place with
  | process slot part =>
    have inTable := process_bounds valid
    cases other with
    | process otherSlot otherPart =>
      have inside := part.inside valid.2
      have otherInside := otherPart.inside otherValid.2
      by_cases same : slot = otherSlot
      · subst same
        have parts : part ≠ otherPart := fun same => differ (by rw [same])
        have partsApart := part.apart valid.2 otherValid.2 parts
        simp only [start, length]
        omega
      · simp only [start, length, Layout.processLength] at inside otherInside ⊢
        omega
    | _ =>
      simp only [IsValid, start_eq, length, Layout.maxDevices, Layout.uuidLength] at otherValid inTable ⊢
      omega
  | _ =>
    cases other with
    | process otherSlot otherPart =>
      have inTable := process_bounds otherValid
      simp only [IsValid, start_eq, length, Layout.maxDevices, Layout.uuidLength] at valid inTable ⊢
      omega
    | _ =>
      simp only [IsValid, start_eq, length, Layout.maxDevices, Layout.uuidLength, ne_eq, not_true_eq_false,
        uuid.injEq, memoryLimit.injEq, coreLimit.injEq] at valid otherValid differ ⊢ <;>
      omega

end Place

structure Write where
  place : Place
  bytes : List UInt8
  deriving Repr, DecidableEq

namespace Write

structure IsValid (write : Write) : Prop where
  place : write.place.IsValid
  length : write.bytes.length = write.place.length

end Write

def putAll (bytes : ByteArray) (writes : List Write) : ByteArray :=
  writes.foldl (fun bytes write => putBytes bytes write.place.start write.bytes) bytes

def bytesOf (bytes : ByteArray) (place : Place) : List UInt8 := bytesAt bytes place.start place.length

def writtenAt (place : Place) (writes : List Write) : List (List UInt8) :=
  (writes.filter (·.place = place)).map (·.bytes)

section PutAll

variable {bytes : ByteArray} {place : Place} {write : Write} {writes more : List Write}

theorem size_putAll (bytes : ByteArray) (writes : List Write) : (putAll bytes writes).size = bytes.size := by
  induction writes generalizing bytes with
  | nil => rfl
  | cons write writes ih => exact (ih _).trans (size_putBytes ..)

theorem putAll_append (bytes : ByteArray) (writes more : List Write) :
    putAll bytes (writes ++ more) = putAll (putAll bytes writes) more := List.foldl_append

@[simp] theorem writtenAt_nil (place : Place) : writtenAt place [] = [] := rfl

@[simp] theorem writtenAt_cons (place : Place) (write : Write) (writes : List Write) :
    writtenAt place (write :: writes) =
      if write.place = place then write.bytes :: writtenAt place writes else writtenAt place writes := by
  by_cases here : write.place = place <;> simp [writtenAt, here]

@[simp] theorem writtenAt_append (place : Place) (writes more : List Write) :
    writtenAt place (writes ++ more) = writtenAt place writes ++ writtenAt place more := by
  simp only [writtenAt, List.filter_append, List.map_append]

theorem writtenAt_eq_nil (elsewhere : ∀ write ∈ writes, write.place ≠ place) : writtenAt place writes = [] := by
  rw [writtenAt, List.map_eq_nil_iff, List.filter_eq_nil_iff]
  intro write member
  simpa using elsewhere write member

theorem bytesOf_put_self (valid : write.IsValid) (size : bytes.size = Layout.size) :
    bytesOf (putAll bytes [write]) write.place = write.bytes := by
  have inside := write.place.bounds valid.place
  rw [putAll, List.foldl_cons, List.foldl_nil, bytesOf, ← valid.length]
  apply bytesAt_putBytes
  rw [valid.length, size]
  exact inside.2

theorem bytesOf_put_of_ne (valid : write.IsValid) (other : place.IsValid) (differ : write.place ≠ place) :
    bytesOf (putAll bytes [write]) place = bytesOf bytes place := by
  have apart := Place.apart valid.place other differ
  rw [← valid.length] at apart
  apply bytesAt_congr
  intro i least most
  rcases apart with before | behind
  · exact byteAt_putBytes_of_ge (by omega)
  · exact byteAt_putBytes_of_lt (by omega)

/-- A place holds what was written to it last. -/
theorem bytesOf_putAll (valid : place.IsValid) (writesValid : ∀ write ∈ writes, write.IsValid)
    (size : bytes.size = Layout.size) :
    bytesOf (putAll bytes writes) place = (writtenAt place writes).getLastD (bytesOf bytes place) := by
  induction writes generalizing bytes with
  | nil => rfl
  | cons write writes ih =>
    obtain ⟨first, rest⟩ := List.forall_mem_cons.1 writesValid
    have later := ih rest ((size_putAll bytes [write]).trans size)
    rw [← List.singleton_append, putAll_append, later, List.singleton_append, writtenAt_cons]
    by_cases here : write.place = place
    · subst here
      rw [bytesOf_put_self first size, if_pos rfl, List.getLastD_cons]
    · rw [bytesOf_put_of_ne first valid here, if_neg here]

/-- What is written elsewhere changes nothing at a place. -/
theorem bytesOf_putAll_of_none (valid : place.IsValid) (writesValid : ∀ write ∈ writes, write.IsValid)
    (size : bytes.size = Layout.size) (none : writtenAt place writes = []) :
    bytesOf (putAll bytes writes) place = bytesOf bytes place := by
  rw [bytesOf_putAll valid writesValid size, none]
  rfl

end PutAll

end GpuShare.Region
