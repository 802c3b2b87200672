import GpuShare.Feedback.Activity
import GpuShare.Feedback.Signals

/-!
The priority controller. A tick first ages every container's launch counter and records which
containers are still active on which device; only then does it decide, per container, whether a more
urgent container blocks it and whether it has to share a device.
-/

set_option autoImplicit false

namespace GpuShare.Feedback

inductive Change where
  | blocked
  | unblocked
  | contentionOn
  | contentionOff
  deriving Repr, DecidableEq

def Change.text : Change → String
  | blocked => "blocked"
  | unblocked => "unblocked"
  | contentionOn => "contention on"
  | contentionOff => "contention off"

structure TickReport where
  -- Containers that went through both passes.
  observed : Nat
  -- Containers with a failing access.
  skipped : Nat
  -- The switched signals, with the position of their container.
  changes : List (Nat × Change)
  activity : Activity
  deriving Repr, DecidableEq

structure Observation where
  tier : Nat
  devices : List String
  -- Whether launches are left after ageing.
  active : Bool
  deriving Repr, DecidableEq

/-- The tier of a priority: negative priorities are as urgent as zero. -/
def tierOf (priority : Int32) : Nat := priority.toInt.toNat

/-- The counter value that keeps a container from launching anything. -/
def blockedCounter : Int32 := -1

def Observation.recordIn (observation : Observation) (activity : Activity) : Activity :=
  if observation.active then
    observation.devices.foldl (fun activity uuid => activity.record uuid observation.tier) activity
  else activity

def Observation.isBlocked (observation : Observation) (activity : Activity) : Bool :=
  observation.devices.any fun uuid => activity.higherTierActive uuid observation.tier

def Observation.isContended (observation : Observation) (activity : Activity) : Bool :=
  observation.isBlocked activity ||
    observation.devices.any fun uuid => 1 < activity.count uuid observation.tier

variable {σ : Type} [Signals σ]

/-- First pass over a container: its counter goes down by one if it is positive. -/
def age : Access σ Observation := do
  let tier := tierOf (← Signals.priority)
  let devices ← Signals.deviceUuids
  let recent ← Signals.recentKernel
  if 0 < recent then
    Signals.setRecentKernel (recent - 1)
    return ⟨tier, devices, 0 < recent - 1⟩
  else return ⟨tier, devices, false⟩

def applyBlock (blocked : Bool) : Access σ (List Change) := do
  let recent ← Signals.recentKernel
  if blocked && 0 ≤ recent then
    Signals.setRecentKernel blockedCounter
    return [.blocked]
  else if !blocked && recent < 0 then
    Signals.setRecentKernel 0
    return [.unblocked]
  else return []

def applyContention (contended : Bool) : Access σ (List Change) := do
  let wanted : Int32 := if contended then 1 else 0
  if (← Signals.utilizationSwitch) != wanted then
    Signals.setUtilizationSwitch wanted
    return [if contended then .contentionOn else .contentionOff]
  else return []

def applySignals (observation : Observation) (activity : Activity) : Access σ (List Change) := do
  let block ← applyBlock (observation.isBlocked activity)
  let contention ← applyContention (observation.isContended activity)
  return block ++ contention

def firstPass (containers : List σ) : List (Except StorageFailure Observation × σ) :=
  containers.map fun container => age container

def activityOf (observations : List (Except StorageFailure Observation)) : Activity :=
  observations.foldl (fun activity observed =>
    match observed with
    | .ok observation => observation.recordIn activity
    | .error _ => activity) .idle

/-- Second pass over a container and what was learnt about it: one that failed in the first pass is
left alone. -/
def settle (activity : Activity) : Except StorageFailure Observation → Access σ (List Change)
  | .ok observation => applySignals observation activity
  | .error failure => throw failure

def secondPass (activity : Activity) (aged : List (Except StorageFailure Observation × σ)) :
    List (Except StorageFailure (List Change) × σ) :=
  aged.map fun observed => settle activity observed.1 observed.2

def reportOf (activity : Activity) (outcomes : List (Except StorageFailure (List Change))) :
    TickReport where
  observed := outcomes.countP fun | .ok _ => true | .error _ => false
  skipped := outcomes.countP fun | .ok _ => false | .error _ => true
  changes := outcomes.zipIdx.flatMap fun
    | (.ok changes, index) => changes.map fun change => (index, change)
    | (.error _, _) => []
  activity := activity

def tick (containers : List σ) : TickReport × List σ :=
  let aged := firstPass containers
  let activity := activityOf (aged.map (·.1))
  let settled := secondPass activity aged
  (reportOf activity (settled.map (·.1)), settled.map (·.2))

/-! Containers whose signals lie in one memory. Two of them may share a place, and then each sees what
was written through the other. -/

structure Place (μ σ : Type) where
  load : μ → σ
  store : μ → σ → μ

variable {μ : Type}

def Place.access {α : Type} (place : Place μ σ) (access : Access σ α) :
    StateM μ (Except StorageFailure α) := fun memory =>
  let (answer, container) := access (place.load memory)
  (answer, place.store memory container)

def tickIn (places : List (Place μ σ)) : StateM μ TickReport := do
  let observations ← places.mapM fun place => place.access age
  let activity := activityOf observations
  let outcomes ← (places.zip observations).mapM fun (place, observation) =>
    place.access (settle activity observation)
  return reportOf activity outcomes

end GpuShare.Feedback
