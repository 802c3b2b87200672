import GpuShare.Dictionary

/-!
Which tiers are active on which device. A device has a counter for each tier up to the highest that was
active there. Counters have 32 bits and start at zero.
-/

set_option autoImplicit false

namespace GpuShare.Feedback

structure Activity where
  -- The counters of each device, the most urgent tier first.
  perDevice : Dictionary (List UInt32)
  deriving Repr, DecidableEq

namespace Activity

def idle : Activity := ⟨∅⟩

def record (activity : Activity) (uuid : String) (tier : Nat) : Activity :=
  let counters := ((activity.perDevice.get? uuid).getD []).rightpad (tier + 1) 0
  ⟨activity.perDevice.insert uuid (counters.modify tier (· + 1))⟩

def counter (activity : Activity) (uuid : String) (tier : Nat) : UInt32 :=
  ((activity.perDevice.get? uuid).bind (·[tier]?)).getD 0

def count (activity : Activity) (uuid : String) (tier : Nat) : Nat :=
  (activity.counter uuid tier).toNat

/-- Whether a more urgent tier is active on a device. -/
def higherTierActive (activity : Activity) (uuid : String) (tier : Nat) : Bool :=
  (activity.perDevice.get? uuid).any fun counters => (counters.take tier).any (0 < ·)

def isEmpty (activity : Activity) : Bool := activity.perDevice.entries.isEmpty

end Activity

end GpuShare.Feedback
