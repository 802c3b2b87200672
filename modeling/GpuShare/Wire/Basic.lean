/-!
The annotations through which the scheduler, the node agent and the monitor talk: their keys, the
bind phase, and the two kinds of device record that are written into them.
-/

set_option autoImplicit false

namespace GpuShare.Wire

def assignedNode : String := "volcano.sh/vgpu-node"

/-- Decimal time at which the scheduler assigned a pod. -/
def assignedTime : String := "volcano.sh/vgpu-time"

def devicesToAllocate : String := "volcano.sh/devices-to-allocate"

def bindPhase : String := "volcano.sh/bind-phase"

def nodeRegister : String := "volcano.sh/node-vgpu-register"

/-- Sign of life written together with the advertised devices. -/
def nodeHandshake : String := "volcano.sh/node-vgpu-handshake"

def nvidia : String := "NVIDIA"

/-- A longer assigned time is no time. -/
def assignedTimeMaxBytes : Nat := 24

/-- The assigned time of a pod that a call has claimed. -/
def claimedTime : UInt64 := 18446744073709551615

inductive Phase where
  | allocating
  | success
  | failed
  deriving Repr, DecidableEq

namespace Phase

def text : Phase → String
  | .allocating => "allocating"
  | .success => "success"
  | .failed => "failed"

/-- Reads an annotation value; other texts name no phase. -/
def read? (text : String) : Option Phase :=
  if text = "allocating" then some .allocating
  else if text = "success" then some .success
  else if text = "failed" then some .failed
  else none

theorem read?_text (phase : Phase) : read? phase.text = some phase := by
  cases phase <;> decide

def isTerminal : Phase → Bool
  | .allocating => false
  | .success | .failed => true

end Phase

structure Grant where
  -- Device UUID, or a geometry reference to a MIG instance.
  uuid : String
  deviceType : String
  -- Memory quota in units of the node's memory factor.
  memory : Int32
  -- Core quota in percent.
  cores : Int32
  deriving Repr, DecidableEq

/-- The grants of a pod: one list per container, in container order. -/
abbrev Grants := List (List Grant)

structure Advert where
  id : String
  -- Number of tenants that may share the device.
  count : Int32
  -- Memory in units of the memory factor.
  memory : Int32
  deviceType : String
  healthy : Bool
  mode : String
  deriving Repr, DecidableEq

end GpuShare.Wire
