import GpuShare.Wire.Codec

/-!
The grants of a pod as a queue of requests: the grants of one type in one container are one request.
Requests are served in container order, and a served request is erased; the containers keep their
positions.
-/

set_option autoImplicit false

namespace GpuShare.Wire

def Grant.isOf (deviceType : String) (grant : Grant) : Bool := grant.deviceType == deviceType

namespace Grants

def nextFrom? (deviceType : String) : Nat → Grants → Option (Nat × List Grant)
  | _, [] => none
  | position, container :: containers =>
    match container.filter (·.isOf deviceType) with
    | [] => nextFrom? deviceType (position + 1) containers
    | request => some (position, request)

def next? (grants : Grants) (deviceType : String) : Option (Nat × List Grant) :=
  nextFrom? deviceType 0 grants

def erase (grants : Grants) (container : Nat) (deviceType : String) : Grants :=
  grants.modify container (·.filter fun grant => !grant.isOf deviceType)

def hasPending (grants : Grants) (deviceTypes : List String) : Bool :=
  grants.any fun container => container.any fun grant => deviceTypes.contains grant.deviceType

end Grants

end GpuShare.Wire
