import GpuShare.Text.Blank
import GpuShare.Wire.Pending
import GpuShare.Cluster.Basic

/-!
The pods that wait for devices. A pod waits if the scheduler has assigned it to the node, nobody has
claimed it, its devices are not yet handed out, and it has some to hand out. The pod assigned first is
served first.
-/

set_option autoImplicit false

namespace GpuShare.Cluster

open Text

def Pod.annotation? (pod : Pod) (key : String) : Option String := pod.metadata.annotation? key

/-- The time a text gives. One that is too long or no number gives the last time there is, which is
also what a claimed pod carries. -/
def timeOf (text : String) : UInt64 :=
  if text.utf8ByteSize ≤ Wire.assignedTimeMaxBytes then
    (readUInt64? text.toList).getD Wire.claimedTime
  else Wire.claimedTime

namespace Pod

/-- When the scheduler assigned a pod; without a usable time, last. -/
def assignedTime (pod : Pod) : UInt64 :=
  match pod.annotation? Wire.assignedTime with
  | some text => timeOf text
  | none => Wire.claimedTime

def claimedText : String := decimal Wire.claimedTime.toNat

def isClaimed (pod : Pod) : Bool := pod.annotation? Wire.assignedTime == some claimedText

def isSettled (pod : Pod) : Bool :=
  ((pod.annotation? Wire.bindPhase).bind Wire.Phase.read?).any (·.isTerminal)

/-- Whether an annotation asks for devices. One that cannot be read does: whoever claims its pod
reports it. -/
def asksForDevices (text : String) : Bool :=
  match Wire.Grants.decode text with
  | .ok grants => grants.any fun container => !container.isEmpty
  | .error _ => !(trim text.toList).isEmpty

def hasPendingEntries (pod : Pod) : Bool :=
  (pod.annotation? Wire.devicesToAllocate).any asksForDevices

def waitsOn (node : String) (pod : Pod) : Bool :=
  pod.annotation? Wire.assignedNode == some node && !pod.isSettled && !pod.isClaimed &&
    pod.hasPendingEntries

end Pod

/-- The earlier assigned of two pods with their positions; the first one if their times are equal. -/
def earlier (first second : Pod × Nat) : Pod × Nat :=
  if second.1.assignedTime < first.1.assignedTime then second else first

/-- The pod to serve next and its position: of the pods that wait, the first with the earliest
time. -/
def nextPod? (pods : List Pod) (node : String) : Option (Pod × Nat) :=
  match pods.zipIdx.filter (·.1.waitsOn node) with
  | [] => none
  | first :: others => some (others.foldl earlier first)

end GpuShare.Cluster
