import GpuShare.Text.Quoted
import GpuShare.Cluster.Pending
import GpuShare.Agent.Catalog
import GpuShare.Agent.MigResolver
import GpuShare.Agent.NodeLock
import GpuShare.Agent.Payload

/-!
Handing out devices. A call for shares of devices serves the queue of waiting pods under the lock of the
node: it claims the pod that was assigned first, takes its next request, resolves the devices of the
request, erases the request from the pod, and marks the pod when nothing is left to hand out. A call
that fails marks its pod failed and gives the claim back.
-/

set_option autoImplicit false

namespace GpuShare

open Text

inductive AllocationError where
  | multipleContainers (count : Nat)
  | noPendingPod (node : String)
  | noPendingRequest (pod deviceType : String)
  -- The call carries another number of devices than the next request has grants.
  | countMismatch (pod : String) (expected : Nat) (ids : List String)
  | unknownDevice (id resource : String)
  | resolution (uuid : String) (cause : MigError)
  | lockUnavailable (cause : NodeLockError)
  | claimConflict (pod : String)
  | clusterAccess (cause : ClusterError)
  | annotationUpdate (pod : String) (cause : ClusterError)
  -- The annotation cannot be read.
  | unreadableGrants (pod : String) (cause : Wire.DecodeError)
  -- The annotation grants devices to a container that does not exist.
  | missingContainer (pod : String) (position : Nat)
  | hostDirectory (path : String)
  | catalog (cause : CatalogError)
  deriving Repr, DecidableEq

namespace AllocationError

def code : AllocationError → String
  | multipleContainers .. => "MultipleContainers"
  | noPendingPod .. => "NoPendingPod"
  | noPendingRequest .. => "NoPendingRequest"
  | countMismatch .. => "CountMismatch"
  | unknownDevice .. => "UnknownDevice"
  | resolution .. => "Resolution"
  | lockUnavailable .. => "LockUnavailable"
  | claimConflict .. => "ClaimConflict"
  | clusterAccess .. => "ClusterAccess"
  | annotationUpdate .. => "AnnotationUpdate"
  | unreadableGrants .. | missingContainer .. => "InvalidAnnotation"
  | hostDirectory .. => "HostDirectory"
  | catalog .. => "Catalog"

def message : AllocationError → String
  | multipleContainers count =>
    decimal count ++ " container requests in one call, only one is supported"
  | noPendingPod node => "no pending pod on node " ++ node
  | noPendingRequest pod deviceType => "pod " ++ pod ++ " has no pending " ++ deviceType ++ " request"
  | countMismatch pod expected ids =>
    "pod " ++ pod ++ " expects " ++ decimal expected ++ " devices but the call carries " ++
      decimal ids.length
  | unknownDevice id resource => "device " ++ id ++ " is not served by " ++ resource
  | resolution uuid _ => "failed to resolve device " ++ uuid
  | lockUnavailable _ => "node lock is unavailable"
  | claimConflict pod => "pod " ++ pod ++ " kept changing while it was being claimed"
  | clusterAccess _ => "failed to query the API server"
  | annotationUpdate pod _ => "failed to update annotations of pod " ++ pod
  | unreadableGrants pod _ | missingContainer pod _ =>
    "pod " ++ pod ++ " carries an invalid allocation annotation"
  | hostDirectory path => "failed to prepare host directory " ++ path
  | catalog _ => "failed to list devices"

def notes : AllocationError → List String
  | countMismatch _ _ ids => ["requested ids: " ++ quotedList ids]
  | missingContainer _ position => ["no container at position " ++ decimal position]
  | _ => []

def severity : AllocationError → Severity
  | multipleContainers .. | countMismatch .. | unknownDevice .. | unreadableGrants ..
  | missingContainer .. => .mismatch
  | noPendingPod .. | noPendingRequest .. => .notFound
  | resolution _ cause => cause.severity
  | lockUnavailable .. | claimConflict .. | clusterAccess .. | annotationUpdate ..
  | hostDirectory .. => .transient
  | catalog .. => .fatal

def causes : AllocationError → List Diagnostic
  | resolution _ cause => explain cause
  | lockUnavailable cause => explain cause
  | clusterAccess cause | annotationUpdate _ cause => explain cause
  | unreadableGrants _ cause => explain cause
  | catalog cause => explain cause
  | _ => []

instance : Explain AllocationError where
  explain error := ⟨error.code, error.message, error.notes⟩ :: error.causes

end AllocationError

namespace Agent

open Cluster Wire

def visibleDevicesName : String := "NVIDIA_VISIBLE_DEVICES"
def memoryLimitName (position : Nat) : String := "CUDA_DEVICE_MEMORY_LIMIT_" ++ decimal position
def coreLimitName : String := "CUDA_DEVICE_SM_LIMIT"
def sharedCacheName : String := "CUDA_DEVICE_MEMORY_SHARED_CACHE"
def taskPriorityName : String := "CUDA_TASK_PRIORITY"

/-- A container with this variable goes without the library that is loaded into every program. -/
def disableControlName : String := "CUDA_DISABLE_CONTROL"

def libraryInContainer : String := "/usr/local/vgpu/libvgpu.so"
def stateInContainer : String := "/tmp/vgpu"
def lockInContainer : String := "/tmp/vgpulock"
def preloadInContainer : String := "/etc/ld.so.preload"

def libraryFile : String := "libvgpu.so"
def preloadFile : String := "ld.so.preload"

def handledTypes : List String := [nvidia]

def claimAttempts : Nat := 3

def visibleDevices (ids : List String) : ContainerResponse :=
  { environment := Dictionary.empty.insert visibleDevicesName (",".intercalate ids) }

/-- A pod that the call has claimed, as it is after claiming. -/
structure Claim where
  pod : Pod
  ns : String
  name : String
  -- The assigned time before claiming.
  originalTime : Option String
  deriving Repr, DecidableEq

def podName (ns name : String) : String := ns ++ "/" ++ name

namespace Claim

def display (claim : Claim) : String := podName claim.ns claim.name

def patch (claim : Claim) (changes : Patch) (version : Option String) :
    Action AllocationError Unit := do
  let _ ← callOr (.annotationUpdate claim.display) (.patchPod claim.ns claim.name changes version)

end Claim

/-- Claims the pod to serve next. A pod that changed after it was read is looked at again, together with
all others; `contended` is the last pod that did. -/
def claimIn (node : String) : Nat → String → Action AllocationError Claim
  | 0, contended => throw (.claimConflict contended)
  | attempts + 1, _ => do
    let pods ← callOr .clusterAccess .listPods
    match nextPod? pods node with
    | none => throw (.noPendingPod node)
    | some (pod, _) =>
      let ns := pod.metadata.ns.getD ""
      let name := pod.metadata.name.getD ""
      let changes := Patch.one assignedTime (some Pod.claimedText)
      match ← ask (.cluster (.patchPod ns name changes pod.metadata.resourceVersion)) with
      | .ok claimed => return ⟨claimed, ns, name, pod.annotation? assignedTime⟩
      | .error error =>
        if error.isConflict then claimIn node attempts (podName ns name)
        else throw (.annotationUpdate (podName ns name) error)

def claimNext (node : String) : Action AllocationError Claim := claimIn node claimAttempts ""

def grantsOf (display : String) (pod : Pod) : Except AllocationError Grants :=
  match Grants.decode ((pod.annotation? devicesToAllocate).getD "") with
  | .ok grants => .ok grants
  | .error cause => .error (.unreadableGrants display cause)

structure Demand where
  grants : Grants
  position : Nat
  container : Container
  request : List Grant
  deriving Repr, DecidableEq

def Claim.demand (claim : Claim) (ids : List String) : Except AllocationError Demand := do
  let grants ← grantsOf claim.display claim.pod
  match grants.next? nvidia with
  | none => throw (.noPendingRequest claim.display nvidia)
  | some (position, request) =>
    if request.length ≠ ids.length then
      throw (.countMismatch claim.display request.length ids)
    match claim.pod.containers[position]? with
    | none => throw (.missingContainer claim.display position)
    | some container => return ⟨grants, position, container, request⟩

/-- Resolves the devices of grants, in order: their IDs, and the partition to remember. -/
def resolveAll (allowed : List Mig.ModelGeometries) :
    Option Mig.Partition → List Grant →
      Program interface (Except AllocationError (List String) × Option Mig.Partition)
  | remembered, [] => return (.ok [], remembered)
  | remembered, grant :: grants => do
    let (resolved, remembered) ← MigResolver.resolve allowed remembered grant.uuid
    match resolved with
    | .error cause => return (.error (.resolution grant.uuid cause), remembered)
    | .ok id =>
      let (others, remembered) ← resolveAll allowed remembered grants
      return (others.map (id :: ·), remembered)

/-- The memory that a grant allows, multiplied in 64 bits. -/
def memoryLimit (factor : UInt32) (grant : Grant) : Int64 :=
  grant.memory.toInt64 * Int64.ofNat factor.toNat

def memoryLimits (factor : UInt32) : Nat → List Grant → List (String × String)
  | _, [] => []
  | position, grant :: grants =>
    (memoryLimitName position, signedDecimal (memoryLimit factor grant).toInt ++ "m") ::
      memoryLimits factor (position + 1) grants

def coreLimit : List Grant → List (String × String)
  | [] => []
  | grant :: _ => [(coreLimitName, signedDecimal grant.cores.toInt)]

def taskPriority (config : AgentConfig) (container : Container) : List (String × String) :=
  match container.limits.get? config.priorityName with
  | some priority => [(taskPriorityName, priority)]
  | none => []

def sharedCache (id : String) : String := stateInContainer ++ "/" ++ id ++ ".cache"

def shareEnvironment (config : AgentConfig) (container : Container) (request : List Grant)
    (resolved : List String) (id : String) : Dictionary String :=
  .ofList ((visibleDevicesName, ",".intercalate resolved) ::
    memoryLimits config.memoryFactor 0 request ++ coreLimit request ++
    (sharedCacheName, sharedCache id) :: taskPriority config container)

def stateDirectory (config : AgentConfig) (pod : Pod) (container : Container) : Path :=
  config.paths.containers.join (pod.metadata.uid.getD "" ++ "_" ++ container.name)

def isUncontrolled (container : Container) : Bool :=
  container.env.any (·.name == disableControlName)

def shareMounts (config : AgentConfig) (pod : Pod) (container : Container) : List Mount :=
  [⟨libraryInContainer, (config.paths.hook.join libraryFile).text, true⟩,
    ⟨stateInContainer, (stateDirectory config pod container).text, false⟩,
    ⟨lockInContainer, config.paths.lock.text, false⟩] ++
  if isUncontrolled container then []
  else [⟨preloadInContainer, (config.paths.hook.join preloadFile).text, true⟩]

def prepareDirectory (path : Path) : Action AllocationError Unit := do
  orFail (fun _ => .hostDirectory path.text) (← ask (.makeSharedDirectory path))

def containerResponse (config : AgentConfig) (pod : Pod) (container : Container)
    (request : List Grant) (resolved : List String) :
    Action AllocationError ContainerResponse := do
  match config.mode with
  | .mig => return visibleDevices resolved
  | .hamiCore =>
    let id ← ask .freshId
    prepareDirectory (stateDirectory config pod container)
    prepareDirectory config.paths.lock
    return ⟨shareEnvironment config container request resolved id, shareMounts config pod container⟩

/-- The last write to a claimed pod: the claim is given back if grants are left, and the pod is bound
if not. -/
def Claim.finish (claim : Claim) : Action AllocationError Unit := do
  let fresh ← callOr (.annotationUpdate claim.display) (.getPod claim.ns claim.name)
  let grants ← orFail id (grantsOf claim.display fresh)
  if grants.hasPending handledTypes then claim.patch (.one assignedTime claim.originalTime) none
  else claim.patch (.one bindPhase (some Phase.success.text)) none

def Claim.settle (claim : Claim) (config : AgentConfig) (demand : Demand) (resolved : List String) :
    Action AllocationError ContainerResponse := do
  let left := demand.grants.erase demand.position nvidia
  claim.patch (.one devicesToAllocate (some left.encode)) claim.pod.metadata.resourceVersion
  let response ← containerResponse config claim.pod demand.container demand.request resolved
  claim.finish
  return response

def Claim.consume (claim : Claim) (config : AgentConfig) (remembered : Option Mig.Partition)
    (ids : List String) :
    Program interface (Except AllocationError ContainerResponse × Option Mig.Partition) :=
  match claim.demand ids with
  | .error error => return (.error error, remembered)
  | .ok demand => do
    let (resolved, remembered) ← resolveAll config.geometries remembered demand.request
    match resolved with
    | .error error => return (.error error, remembered)
    | .ok resolved => return (← (claim.settle config demand resolved).run, remembered)

/-- Marks a claimed pod failed and gives the claim back. If that fails too, nothing is to be done. -/
def Claim.abandon (claim : Claim) : Program interface Unit := do
  let changes := (Patch.one bindPhase (some Phase.failed.text)).insert assignedTime
    claim.originalTime
  let _ ← (claim.patch changes none).run

def serveQueue (config : AgentConfig) (remembered : Option Mig.Partition) (ids : List String) :
    Program interface (Except AllocationError ContainerResponse × Option Mig.Partition) := do
  match ← (claimNext config.node).run with
  | .error error => return (.error error, remembered)
  | .ok claim =>
    match ← claim.consume config remembered ids with
    | (.ok response, remembered) => return (.ok response, remembered)
    | (.error error, remembered) =>
      claim.abandon
      return (.error error, remembered)

def queueLock (config : AgentConfig) : NodeLock := .ofDomain config.node NodeLock.deviceDomain

/-- Serves the next request of the queue under the lock of the node, which is given back however that
ends. -/
def serveLocked (config : AgentConfig) (remembered : Option Mig.Partition) (ids : List String) :
    Program interface (Except AllocationError ContainerResponse × Option Mig.Partition) := do
  match ← (queueLock config).acquire.run with
  | .error cause => return (.error (.lockUnavailable cause), remembered)
  | .ok stamp =>
    let outcome ← serveQueue config remembered ids
    let _ ← ((queueLock config).release stamp).run
    return outcome

def checkServed (resource : Resource) (served : List DeviceId) :
    List ContainerRequest → Except AllocationError Unit
  | [] => .ok ()
  | ids :: others =>
    match ids.find? fun id => !served.any (·.id == id) with
    | some id => .error (.unknownDevice id resource.name)
    | none => checkServed resource served others

def passThrough (config : AgentConfig) (resource : Resource) (request : AllocateRequest) :
    Action AllocationError AllocateResponse := do
  let served ← Attempt.explaining .catalog (resource.deviceIds config)
  orFail id (checkServed resource served request.containers)
  return ⟨request.containers.map visibleDevices⟩

/-- Answers a call for a resource, given the remembered partition: the answer, and the partition to
remember. -/
def allocate (config : AgentConfig) (remembered : Option Mig.Partition) (resource : Resource)
    (request : AllocateRequest) :
    Program interface (Except AllocationError AllocateResponse × Option Mig.Partition) := do
  if 1 < request.containers.length then
    return (.error (.multipleContainers request.containers.length), remembered)
  else if resource.strategy = .mixed then
    return (← (passThrough config resource request).run, remembered)
  else match resource.kind with
    | .memory | .cores => return (.ok ⟨request.containers.map fun _ => {}⟩, remembered)
    | .instances _ => return (← (passThrough config resource request).run, remembered)
    | .count =>
      match request.containers with
      | [] => return (.ok ⟨[]⟩, remembered)
      | ids :: _ =>
        let (outcome, remembered) ← serveLocked config remembered ids
        return (outcome.map fun response => ⟨[response]⟩, remembered)

end Agent

end GpuShare
