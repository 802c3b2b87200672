import GpuShare.File.Path
import GpuShare.Region.Basic

/-!
A region in words: its header, its devices, its counters, and its processes.
-/

set_option autoImplicit false

namespace GpuShare.Region

open Text

def truthText (value : Bool) : String := if value then "true" else "false"

def numbersText (numbers : List UInt64) : String :=
  "[" ++ ", ".intercalate (numbers.map fun n => decimal n.toNat) ++ "]"

def headerLine (region : Region) (name : String) : String :=
  "Region " ++ name ++ ": initialized=" ++ truthText region.isInitialized ++ ", sm_initialized=" ++
    truthText region.isSmInitialized ++ ", owner_pid=" ++ decimal region.ownerPid.toNat

def deviceLine (region : Region) (index : Nat) : Except RegionError String := do
  let uuid ← region.deviceUuid index
  let memory ← region.memoryLimit index
  let cores ← region.coreLimit index
  return "Device " ++ decimal index ++ ": UUID=" ++ uuid.getD "" ++ ", MemLimit=" ++
    decimal memory.toNat ++ ", SmLimit=" ++ decimal cores.toNat ++ "%"

def countersLine (region : Region) : String :=
  "Priority=" ++ signedDecimal region.priority.toInt ++ ", RecentKernel=" ++
    signedDecimal region.recentKernel.toInt ++ ", UtilizationSwitch=" ++
    signedDecimal region.utilizationSwitch.toInt

def processLine (devices : Nat) (process : ProcessSlot) : String :=
  "PID " ++ signedDecimal process.pid.toInt ++ " (host " ++ signedDecimal process.hostPid.toInt ++
    "): status=" ++ signedDecimal process.status.toInt ++ ", used=" ++
    numbersText ((process.memory.take devices).map (·.total)) ++ ", monitor_used=" ++
    numbersText (process.monitorUsed.take devices)

def report (region : Region) (name : String) (withProcesses : Bool) :
    Except RegionError (List String) := do
  let devices ← region.deviceCount
  let deviceLines ← (List.range devices).mapM region.deviceLine
  let processes ← region.processes
  return [region.headerLine name, "Shared region contains " ++ decimal devices ++ " devices"] ++
    deviceLines ++
    [region.countersLine, "Process slots in use: " ++ decimal processes.length] ++
    (if withProcesses then processes.map (processLine devices) else [])

structure Shown where
  lines : List String
  failure : Option String
  deriving Repr, DecidableEq

def showTarget : String := "vgpu_manager::cmd::show_shm"

def failureText (error : RegionError) : String :=
  match error with
  | .io _ reason => error.message ++ ": " ++ reason
  | _ => error.message

def shown (path : Path) (opened : Except RegionError Region) (withProcesses : Bool) : Shown :=
  let opening := "Opening shared region at " ++ path.text
  match opened with
  | .error error => ⟨[opening], some ("failed to open " ++ path.text ++ ": " ++ failureText error)⟩
  | .ok region =>
    match region.report path.text withProcesses with
    | .error error => ⟨[opening], some (failureText error)⟩
    | .ok lines => ⟨opening :: lines, none⟩

def Shown.exitCode (shown : Shown) : Nat := if shown.failure.isSome then 1 else 0

end GpuShare.Region
