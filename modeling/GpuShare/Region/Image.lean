import GpuShare.Region.Basic

/-!
Building region images field by field, the way the library inside a container fills them. Filling a
slot grows the count of its table to cover it.
-/

set_option autoImplicit false

namespace GpuShare.Region

open Text

inductive ImageCall where
  | device (slot : Nat) (uuid : String) (memoryLimit coreLimit : UInt64)
  | process (slot : Nat) (pid hostPid : Int32) (used : List (Nat × UInt64))
  | priority (value : Int32)
  | recentKernel (value : Int32)
  | utilizationSwitch (value : Int32)
  | rawDeviceCount (count : UInt64)
  | rawProcessCount (count : Int32)
  deriving Repr, DecidableEq

inductive ImageError where
  | deviceSlot (slot : Nat)
  | uuidTooLong
  | processSlot (slot : Nat)
  deriving Repr, DecidableEq

def ImageError.message : ImageError → String
  | deviceSlot slot => "device slot " ++ decimal slot ++ " out of range"
  | uuidTooLong => "uuid too long"
  | processSlot slot => "process slot " ++ decimal slot ++ " out of range"

/-- A region that is set up and has neither devices nor processes. -/
def emptyImage : ByteArray := putInt32 (zeros Layout.size) Layout.initialized 1

def putUsed (bytes : ByteArray) (slotAt : Nat) (used : Nat × UInt64) : ByteArray :=
  let start := slotAt + Layout.used + used.1 * Layout.memoryLength
  putWord64 (putWord64 bytes (start + 16) used.2) (start + 32) used.2

def ImageCall.apply (bytes : ByteArray) : ImageCall → Except ImageError ByteArray
  | device slot uuid memoryLimit coreLimit =>
    let text := utf8Bytes uuid
    if Layout.maxDevices ≤ slot then .error (.deviceSlot slot)
    else if Layout.uuidLength ≤ text.length then .error .uuidTooLong
    else
      let padded := text ++ List.replicate (Layout.uuidLength - text.length) 0
      let bytes := putBytes bytes (Layout.uuids + slot * Layout.uuidLength) padded
      let bytes := putWord64 bytes (Layout.memoryLimits + slot * 8) memoryLimit
      let bytes := putWord64 bytes (Layout.coreLimits + slot * 8) coreLimit
      let count := max (word64 bytes Layout.deviceCount) (UInt64.ofNat (slot + 1))
      .ok (putWord64 bytes Layout.deviceCount count)
  | process slot pid hostPid used =>
    if Layout.maxProcesses ≤ slot then .error (.processSlot slot)
    else
      let slotAt := Layout.processes + slot * Layout.processLength
      let bytes := putInt32 bytes (slotAt + Layout.pid) pid
      let bytes := putInt32 bytes (slotAt + Layout.hostPid) hostPid
      let bytes := used.foldl (putUsed · slotAt ·) bytes
      let count := max (int32 bytes Layout.processCount) (Int32.ofNat (slot + 1))
      .ok (putInt32 bytes Layout.processCount count)
  | priority value => .ok (putInt32 bytes Layout.priority value)
  | recentKernel value => .ok (putInt32 bytes Layout.recentKernel value)
  | utilizationSwitch value => .ok (putInt32 bytes Layout.utilizationSwitch value)
  | rawDeviceCount count => .ok (putWord64 bytes Layout.deviceCount count)
  | rawProcessCount count => .ok (putInt32 bytes Layout.processCount count)

def buildImage (calls : List ImageCall) : Except ImageError ByteArray :=
  calls.foldlM ImageCall.apply emptyImage

end GpuShare.Region
