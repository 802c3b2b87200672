import GpuShare.Diagnostic
import GpuShare.Text.Decimal
import GpuShare.Text.Utf8
import GpuShare.Region.Layout
import GpuShare.Region.Bytes

/-!
Shared regions: a byte string that is long enough for the layout, and its readers. Another program
may change the bytes at any time, so the two counts of the header are checked on every use; a count
outside the tables is a violation of the layout, never an access outside them.
-/

set_option autoImplicit false

namespace GpuShare

open Text

inductive RegionError where
  | notFound (path : String)
  -- The system refuses to open the file.
  | io (path reason : String)
  | truncated (length : Nat)
  -- A count of the header does not fit its table.
  | layoutViolation (reason : String)
  | indexOutOfBounds (field : String) (index capacity : Nat)
  deriving Repr, DecidableEq

namespace RegionError

def code : RegionError → String
  | notFound .. => "NotFound"
  | io .. => "Io"
  | truncated .. => "Truncated"
  | layoutViolation .. => "LayoutViolation"
  | indexOutOfBounds .. => "IndexOutOfBounds"

def message : RegionError → String
  | notFound path => "shared region `" ++ path ++ "` does not exist"
  | io path reason => "failed to map shared region `" ++ path ++ "`: " ++ reason
  | truncated length =>
    "shared region is " ++ decimal length ++ " bytes, expected at least " ++
      decimal Region.Layout.size
  | layoutViolation reason => "shared region layout violated: " ++ reason
  | indexOutOfBounds field index capacity =>
    field ++ " index " ++ decimal index ++ " exceeds capacity " ++ decimal capacity

instance : Explain RegionError where
  explain error := [⟨error.code, error.message, []⟩]

end RegionError

structure Region where
  bytes : ByteArray
  fits : Region.Layout.size ≤ bytes.size

namespace Region

structure DeviceMemory where
  context : UInt64
  modules : UInt64
  buffer : UInt64
  offset : UInt64
  total : UInt64
  deriving Repr, DecidableEq

/-- One slot of the process table; the lists have one entry per device slot. -/
structure ProcessSlot where
  pid : Int32
  hostPid : Int32
  memory : List DeviceMemory
  monitorUsed : List UInt64
  status : Int32
  deriving Repr, DecidableEq

def deviceCount (region : Region) : Except RegionError Nat :=
  let count := (word64 region.bytes Layout.deviceCount).toNat
  if count ≤ Layout.maxDevices then .ok count
  else .error (.layoutViolation
    ("device count " ++ decimal count ++ " exceeds " ++ decimal Layout.maxDevices ++ " slots"))

def processCount (region : Region) : Except RegionError Nat :=
  let count := (int32 region.bytes Layout.processCount).toInt
  if 0 ≤ count ∧ count ≤ Layout.maxProcesses then .ok count.toNat
  else .error (.layoutViolation
    ("process count " ++ signedDecimal count ++ " outside 0..=" ++ decimal Layout.maxProcesses))

/-- Checks the counts of the header, the device count first. -/
def validate (region : Region) : Except RegionError Unit := do
  let _ ← region.deviceCount
  let _ ← region.processCount

def ofBytes (bytes : ByteArray) : Except RegionError Region :=
  if fits : Layout.size ≤ bytes.size then
    let region : Region := ⟨bytes, fits⟩
    region.validate.map fun _ => region
  else .error (.truncated bytes.size)

def isInitialized (region : Region) : Bool := int32 region.bytes Layout.initialized != 0

def isSmInitialized (region : Region) : Bool := int32 region.bytes Layout.smInitialized != 0

def ownerPid (region : Region) : UInt32 := word32 region.bytes Layout.ownerPid

def checkDevice (index : Nat) : Except RegionError Unit :=
  if index < Layout.maxDevices then .ok ()
  else .error (.indexOutOfBounds "device" index Layout.maxDevices)

/-- The UUID in a slot: its bytes up to the first zero; an empty slot has none. -/
def slotUuid (region : Region) (index : Nat) : Option String :=
  let raw := bytesAt region.bytes (Layout.uuids + index * Layout.uuidLength) Layout.uuidLength
  match raw.takeWhile (· != 0) with
  | [] => none
  | uuid => some (utf8Lossy uuid)

def deviceUuid (region : Region) (index : Nat) : Except RegionError (Option String) :=
  (checkDevice index).map fun _ => region.slotUuid index

def deviceUuids (region : Region) : List String :=
  (List.range Layout.maxDevices).filterMap region.slotUuid

/-- Memory quota of a device slot in bytes. -/
def memoryLimit (region : Region) (index : Nat) : Except RegionError UInt64 :=
  (checkDevice index).map fun _ => word64 region.bytes (Layout.memoryLimits + index * 8)

/-- Core quota of a device slot in percent. -/
def coreLimit (region : Region) (index : Nat) : Except RegionError UInt64 :=
  (checkDevice index).map fun _ => word64 region.bytes (Layout.coreLimits + index * 8)

def memoryAt (bytes : ByteArray) (start : Nat) : DeviceMemory where
  context := word64 bytes start
  modules := word64 bytes (start + 8)
  buffer := word64 bytes (start + 16)
  offset := word64 bytes (start + 24)
  total := word64 bytes (start + 32)

def processAt (bytes : ByteArray) (start : Nat) : ProcessSlot where
  pid := int32 bytes (start + Layout.pid)
  hostPid := int32 bytes (start + Layout.hostPid)
  memory := (List.range Layout.maxDevices).map fun device =>
    memoryAt bytes (start + Layout.used + device * Layout.memoryLength)
  monitorUsed := (List.range Layout.maxDevices).map fun device =>
    word64 bytes (start + Layout.monitorUsed + device * 8)
  status := int32 bytes (start + Layout.status)

def process (region : Region) (index : Nat) : Except RegionError ProcessSlot :=
  if index < Layout.maxProcesses then
    .ok (processAt region.bytes (Layout.processes + index * Layout.processLength))
  else .error (.indexOutOfBounds "process" index Layout.maxProcesses)

def processes (region : Region) : Except RegionError (List ProcessSlot) := do
  (List.range (← region.processCount)).mapM region.process

/-- The container's priority; lower is more urgent. -/
def priority (region : Region) : Int32 := int32 region.bytes Layout.priority

/-- The counter of recent kernel launches, negative while the container is blocked. -/
def recentKernel (region : Region) : Int32 := int32 region.bytes Layout.recentKernel

/-- Whether the container has to keep to its core quota. -/
def utilizationSwitch (region : Region) : Int32 := int32 region.bytes Layout.utilizationSwitch

def putCounter (region : Region) (start : Nat) (value : Int32) : Region where
  bytes := putInt32 region.bytes start value
  fits := by rw [putInt32, size_putBytes]; exact region.fits

/-- Writes bytes into a region; what would lie beyond its end is dropped. -/
def put (region : Region) (start : Nat) (written : List UInt8) : Region where
  bytes := putBytes region.bytes start written
  fits := by rw [size_putBytes]; exact region.fits

def anonymous : String := "<memory>"

def setRecentKernel (region : Region) (value : Int32) : Region :=
  region.putCounter Layout.recentKernel value

def setUtilizationSwitch (region : Region) (value : Int32) : Region :=
  region.putCounter Layout.utilizationSwitch value

end Region

end GpuShare
