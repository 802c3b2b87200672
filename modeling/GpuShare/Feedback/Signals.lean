import GpuShare.Diagnostic
import GpuShare.Region.Basic

/-!
The signals of a container, as the priority controller reads and writes them, and what carries them:
a plain record, a shared region, or any carrier with calls that fail by number.
-/

set_option autoImplicit false

namespace GpuShare.Feedback

structure StorageFailure where
  reason : String
  deriving Repr, DecidableEq

def StorageFailure.message (failure : StorageFailure) : String :=
  "signal storage access failed: " ++ failure.reason

instance : Explain StorageFailure where
  explain failure := [⟨"StorageFailure", failure.message, []⟩]

/-- One access to a carrier of signals: an answer or a failure, and the carrier afterwards. -/
abbrev Access (σ : Type) := ExceptT StorageFailure (StateM σ)

class Signals (σ : Type) where
  priority : Access σ Int32
  deviceUuids : Access σ (List String)
  recentKernel : Access σ Int32
  setRecentKernel : Int32 → Access σ Unit
  utilizationSwitch : Access σ Int32
  setUtilizationSwitch : Int32 → Access σ Unit

structure Plain where
  priority : Int32
  devices : List String
  recentKernel : Int32
  utilizationSwitch : Int32
  deriving Repr, DecidableEq

instance : Signals Plain where
  priority := return (← get).priority
  deviceUuids := return (← get).devices
  recentKernel := return (← get).recentKernel
  setRecentKernel value := modify fun record => { record with recentKernel := value }
  utilizationSwitch := return (← get).utilizationSwitch
  setUtilizationSwitch value := modify fun record => { record with utilizationSwitch := value }

/-- A region checks its header again whenever its devices are read. -/
instance : Signals Region where
  priority := return (← get).priority
  deviceUuids := do
    let region ← get
    match region.validate with
    | .ok () => return region.deviceUuids
    | .error error => throw ⟨error.message⟩
  recentKernel := return (← get).recentKernel
  setRecentKernel value := modify fun region => region.setRecentKernel value
  utilizationSwitch := return (← get).utilizationSwitch
  setUtilizationSwitch value := modify fun region => region.setUtilizationSwitch value

inductive Method where
  | priority
  | deviceUuids
  | recentKernel
  | setRecentKernel
  | utilizationSwitch
  | setUtilizationSwitch
  deriving Repr, DecidableEq

def Method.text : Method → String
  | priority => "priority"
  | deviceUuids => "device_uuids"
  | recentKernel => "recent_kernel"
  | setRecentKernel => "set_recent_kernel"
  | utilizationSwitch => "utilization_switch"
  | setUtilizationSwitch => "set_utilization_switch"

/-- A carrier of which some calls fail before they do anything: `fails m n` says whether the `n`th
call of `m` does, counted from one. Successful writes are kept, the latest first. -/
structure Faulty (σ : Type) where
  inner : σ
  fails : Method → Nat → Bool
  calls : List Method
  writes : List (Method × Int32)

namespace Faulty

variable {σ α : Type}

def call (method : Method) (access : Access σ α) : Access (Faulty σ) α := fun carrier =>
  let number := carrier.calls.count method + 1
  let counted := { carrier with calls := method :: carrier.calls }
  if carrier.fails method number then (.error ⟨"injected"⟩, counted)
  else
    let (answer, inner) := access carrier.inner
    (answer, { counted with inner := inner })

def write (method : Method) (value : Int32) (access : Access σ Unit) : Access (Faulty σ) Unit := do
  call method access
  modify fun carrier => { carrier with writes := (method, value) :: carrier.writes }

instance [Signals σ] : Signals (Faulty σ) where
  priority := call .priority Signals.priority
  deviceUuids := call .deviceUuids Signals.deviceUuids
  recentKernel := call .recentKernel Signals.recentKernel
  setRecentKernel value := write .setRecentKernel value (Signals.setRecentKernel value)
  utilizationSwitch := call .utilizationSwitch Signals.utilizationSwitch
  setUtilizationSwitch value :=
    write .setUtilizationSwitch value (Signals.setUtilizationSwitch value)

end Faulty

end GpuShare.Feedback
