/-!
The byte layout of a shared region: a header, a table of device slots, a table of process slots, and
four trailing counters. Numbers are little-endian. The library inside the container writes the same
layout, so every offset is part of the contract.
-/

set_option autoImplicit false

namespace GpuShare.Region.Layout

def maxDevices : Nat := 16

def maxProcesses : Nat := 1024

/-- Bytes of a device UUID, padded with zeros. -/
def uuidLength : Nat := 96

/-- Bytes of the semaphore, which belongs to the writer. -/
def semaphoreLength : Nat := 32

/-- Bytes of one memory record: context, module, buffer, offset, total. -/
def memoryLength : Nat := 40

/-- Bytes of a process slot, with the padding at its end. -/
def processLength : Nat := 784

def initialized : Nat := 0
def smInitialized : Nat := 4
def ownerPid : Nat := 8
def semaphore : Nat := 12
def deviceCount : Nat := 48
def uuids : Nat := 56
def memoryLimits : Nat := uuids + maxDevices * uuidLength
def coreLimits : Nat := memoryLimits + maxDevices * 8
def processes : Nat := coreLimits + maxDevices * 8

/-! Offsets inside a process slot. -/

def pid : Nat := 0
def hostPid : Nat := 4
def used : Nat := 8
def monitorUsed : Nat := used + maxDevices * memoryLength
def status : Nat := monitorUsed + maxDevices * 8

/-! The counters behind the process table. -/

def processCount : Nat := processes + maxProcesses * processLength
def utilizationSwitch : Nat := processCount + 4
def recentKernel : Nat := processCount + 8
def priority : Nat := processCount + 12

def size : Nat := processCount + 16

theorem size_eq : size = 804680 := rfl

end GpuShare.Region.Layout
