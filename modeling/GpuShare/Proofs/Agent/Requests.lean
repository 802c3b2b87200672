import GpuShare.Agent.Allocation
import GpuShare.Proofs.Agent.LockProtocol

/-!
What the parts of handing out devices ask: the lock asks about its node and the time, and the resolver
about the devices. Neither asks about pods.
-/

set_option autoImplicit false

namespace GpuShare.Agent

open Cluster Mig Program Attempt

namespace Request

def IsPodCall : Request → Prop
  | .cluster .listPods | .cluster (.getPod ..) | .cluster (.patchPod ..) => True
  | _ => False

def IsQuiet (request : Request) : Prop := ¬ request.IsPodCall

def IsForLock : Request → Prop
  | .cluster (.getNode _) | .cluster (.patchNode ..) | .now | .sleep _ => True
  | _ => False

def IsForDevices : Request → Prop
  | .gpus | .migInstances | .exportPartition | .applyPartition _ => True
  | _ => False

def IsLook : Request → Prop
  | .gpus | .migInstances => True
  | _ => False

def IsReading : Request → Prop
  | .gpus | .exportPartition => True
  | _ => False

def IsLocal : Request → Prop
  | .cluster _ => False
  | _ => True

def WritesPod : Request → Prop
  | .cluster (.patchPod ..) => True
  | _ => False

def WritesNode : Request → Prop
  | .cluster (.patchNode ..) => True
  | _ => False

def SparesNodes (request : Request) : Prop := ¬ request.WritesNode

variable {request : Request}

theorem IsForLock.isQuiet (asked : request.IsForLock) : request.IsQuiet := by
  cases request with
  | cluster call => cases call <;> first | exact id | exact absurd asked id
  | _ => exact id

theorem IsForDevices.isQuiet (asked : request.IsForDevices) : request.IsQuiet := by
  cases request with
  | cluster call => exact absurd asked id
  | _ => exact id

theorem IsLook.isForDevices (asked : request.IsLook) : request.IsForDevices := by
  cases request with
  | gpus => trivial
  | migInstances => trivial
  | _ => exact absurd asked id

theorem IsReading.isForDevices (asked : request.IsReading) : request.IsForDevices := by
  cases request with
  | gpus => trivial
  | exportPartition => trivial
  | _ => exact absurd asked id

theorem IsForDevices.isLocal (asked : request.IsForDevices) : request.IsLocal := by
  cases request with
  | cluster call => exact absurd asked id
  | _ => trivial

theorem WritesPod.eq_patchPod (writes : request.WritesPod) :
    ∃ ns name patch guard, request = .cluster (.patchPod ns name patch guard) := by
  cases request with
  | cluster call =>
    cases call with
    | patchPod ns name patch guard => exact ⟨ns, name, patch, guard, rfl⟩
    | _ => exact absurd writes id
  | _ => exact absurd writes id

theorem IsQuiet.not_writesPod (quiet : request.IsQuiet) : ¬ request.WritesPod := by
  cases request with
  | cluster call => cases call <;> first | exact id | exact absurd trivial quiet
  | _ => exact id

theorem IsLocal.not_writesPod (asked : request.IsLocal) : ¬ request.WritesPod := by
  cases request with
  | cluster call => exact absurd asked id
  | _ => exact id

theorem IsLocal.sparesNodes (asked : request.IsLocal) : request.SparesNodes := by
  cases request with
  | cluster call => exact absurd asked id
  | _ => exact id

end Request

section Lock

variable {lock : NodeLock}

theorem NodeLock.asks_of_follows {α : Type} {may : Node → List Time.Instant → Patch → Prop}
    {knowledge : NodeLock.Knowledge} {ends : NodeLock.Knowledge → α → Prop}
    {program : Program interface α}
    (follows : program.Follows (lock.protocol may) ends knowledge) :
    program.Asks Request.IsForLock := by
  refine Follows.asks follows fun knowledge request allowed => ?_
  obtain ⟨-, fits⟩ := allowed
  cases request with
  | cluster call => cases call <;> trivial
  | now => trivial
  | sleep milliseconds => trivial
  | _ => exact fits

theorem NodeLock.acquire_asks : lock.acquire.run.Asks Request.IsForLock :=
  asks_of_follows acquire_follows

theorem NodeLock.release_asks (stamp : String) : (lock.release stamp).run.Asks Request.IsForLock :=
  asks_of_follows (release_follows stamp)

end Lock

section Parts

variable {ε δ α : Type} {kind : Request → Prop}

theorem ask_asks {request : Request} (asked : kind request) :
    (ask request : Action ε _).run.Asks kind := asks_lift asked

@[simp] theorem orFail_asks (f : ε → δ) (outcome : Except ε α) : (orFail f outcome).run.Asks kind := by
  cases outcome with
  | ok a => trivial
  | error e => trivial

theorem askOr_asks {request : Request} (f : Answer request → Action ε α) (asked : kind request)
    (rest : ∀ answer, (f answer).run.Asks kind) : (ask request >>= f).run.Asks kind :=
  Attempt.asks_bind (ask_asks asked) rest

end Parts

namespace MigResolver

theorem exportCurrent_asks (index : UInt32) :
    (exportCurrent index).run.Asks Request.IsReading := by
  refine askOr_asks _ trivial fun exported => Attempt.asks_bind (orFail_asks _ _) fun exported => ?_
  exact askOr_asks _ trivial fun gpus => Attempt.asks_bind (orFail_asks _ _) fun gpus => trivial

theorem current_asks (remembered : Option Partition) (index : UInt32) :
    (current remembered index).run.Asks Request.IsReading := by
  cases remembered with
  | none => exact exportCurrent_asks index
  | some partition => trivial

theorem ensureGeometry_asks (partition : Partition) (index : UInt32) (geometry : Geometry) :
    (ensureGeometry partition index geometry).run.Asks Request.IsForDevices := by
  refine Attempt.asks_bind trivial fun located => ?_
  obtain ⟨entries, position, entry⟩ := located
  show Asks _ (ExceptT.run (if _ then _ else _))
  split
  · trivial
  · exact askOr_asks _ trivial fun applied => Attempt.asks_bind (orFail_asks _ _) fun _ => trivial

theorem lookUp_asks_gpus (allowed : List ModelGeometries) (reference : Reference) :
    (lookUp allowed reference).run.Asks (· = Request.gpus) := by
  refine askOr_asks _ rfl fun gpus => Attempt.asks_bind (orFail_asks _ _) fun gpus => ?_
  refine Attempt.asks_bind (orFail_asks _ _) fun device => ?_
  refine Attempt.asks_bind (orFail_asks _ _) fun geometry => ?_
  split
  · trivial
  · trivial

theorem lookUp_asks (allowed : List ModelGeometries) (reference : Reference) :
    (lookUp allowed reference).run.Asks Request.IsLook := by
  refine (lookUp_asks_gpus allowed reference).mono ?_
  rintro _ rfl
  trivial

theorem findInstance_asks (reference : Reference) (device : Device.Gpu) :
    (findInstance reference device).run.Asks Request.IsLook := by
  refine askOr_asks _ trivial fun instances => Attempt.asks_bind (orFail_asks _ _) fun instances => ?_
  split
  · trivial
  · trivial

theorem resolve_asks (allowed : List ModelGeometries) (remembered : Option Partition)
    (id : String) : (resolve allowed remembered id).Asks Request.IsForDevices := by
  rw [resolve]
  split
  · split
    · trivial
    · next reference _ =>
      have looks := (lookUp_asks allowed reference).mono fun _ => Request.IsLook.isForDevices
      refine Program.asks_bind looks fun found => ?_
      split
      · trivial
      · next device geometry =>
        have reads := (current_asks remembered device.index).mono fun _ => Request.IsReading.isForDevices
        refine Program.asks_bind reads fun partition => ?_
        split
        · trivial
        · next partition =>
          refine Program.asks_bind (ensureGeometry_asks partition device.index geometry) fun changed => ?_
          split
          · trivial
          · have looks := (findInstance_asks reference device).mono fun _ => Request.IsLook.isForDevices
            exact Program.asks_bind looks fun _ => trivial
  · trivial

end MigResolver

theorem resolveAll_asks (allowed : List ModelGeometries) (grants : List Wire.Grant)
    (remembered : Option Partition) :
    (resolveAll allowed remembered grants).Asks Request.IsForDevices := by
  induction grants generalizing remembered with
  | nil => trivial
  | cons grant grants ih =>
    refine Program.asks_bind (MigResolver.resolve_asks allowed remembered grant.uuid) fun resolved => ?_
    obtain ⟨outcome, remembered⟩ := resolved
    cases outcome with
    | error error => trivial
    | ok id => exact Program.asks_bind (ih remembered) fun _ => trivial

end GpuShare.Agent
