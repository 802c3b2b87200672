import GpuShare.Proofs.Cluster.Annotation
import GpuShare.Proofs.Cluster.Pending
import GpuShare.Proofs.Wire.Grants
import GpuShare.Proofs.Agent.ContainerResponse
import GpuShare.Proofs.Agent.Requests

/-!
How a call for shares uses the pods. It claims one of the pods it has listed, by a write that is guarded
by what it saw. It erases the next request of the pod it has claimed, by a write that is guarded by what
the claim left, once the devices of the request are resolved. Its last write is not guarded and leaves the
grants alone.
-/

set_option autoImplicit false

namespace GpuShare.Agent.Claiming

open Cluster Wire Program Attempt

abbrev Key := String × String

def keyOf (pod : Pod) : Key := (pod.metadata.ns.getD "", pod.metadata.name.getD "")

/-- A call for shares of devices, and what its agent remembers and is configured for. -/
structure Order where
  config : AgentConfig
  remembered : Option Mig.Partition
  ids : List String

abbrev Result := Except AllocationError ContainerResponse × Option Mig.Partition

def Order.program (order : Order) : Program interface Result :=
  serveLocked order.config order.remembered order.ids

def claimPatch : Patch := .one assignedTime (some Pod.claimedText)

def erasePatch (demand : Demand) : Patch :=
  .one devicesToAllocate (some (demand.grants.erase demand.position nvidia).encode)

def LeavesGrants (patch : Patch) : Prop := patch.get? devicesToAllocate = none

structure Wants (pod : Pod) (demand : Demand) : Prop where
  grants : Grants.decode ((pod.annotation? devicesToAllocate).getD "") = .ok demand.grants
  next : demand.grants.next? nvidia = some (demand.position, demand.request)
  container : pod.containers[demand.position]? = some demand.container

/-- The devices of a request are resolved by these exchanges. -/
def Resolves (order : Order) (request : List Grant) (events : List (Exchange interface))
    (ids : List String) : Prop :=
  ∃ remembered,
    (resolveAll order.config.geometries order.remembered request).Ends events (.ok ids, remembered)

/-- A response gives a container the resolved devices of a request, with its limits where devices are shared. -/
def Answers (config : AgentConfig) (pod : Pod) (container : Container) (request : List Grant)
    (ids : List String) (response : ContainerResponse) : Prop :=
  match config.mode with
  | .mig => OnlyShows ids response
  | .hamiCore => ∃ id, Limits config pod container request ids id response

-- Of a pod nothing but its identifier has a part in its responses.
theorem Answers.congr {config : AgentConfig} {pod other : Pod} {container : Container} {request : List Grant}
    {ids : List String} {response : ContainerResponse} (answers : Answers config pod container request ids response)
    (same : other.metadata.uid = pod.metadata.uid) :
    Answers config other container request ids response := by
  have mounts : libraryMounts config other container = libraryMounts config pod container := by
    rw [libraryMounts, libraryMounts, same]
  unfold Answers at answers ⊢
  split at answers
  · exact answers
  · obtain ⟨id, limits⟩ := answers
    exact ⟨id, limits.environment, by rw [mounts]; exact limits.controlled,
      by rw [mounts]; exact limits.uncontrolled⟩

/-- A pod as it was claimed, and the exchanges since then until its request was erased. -/
structure Service where
  key : Key
  pod : Pod
  events : List (Exchange interface)

inductive Stage where
  | searching (seen : List Pod)
  | claimed (service : Service)
  | erased (service : Service)
  -- It has made its last write.
  | settled (served : Option Service)

namespace Stage

def learn : Stage → (request : Request) → Answer request → Stage
  | searching _, .cluster .listPods, .ok pods => searching pods
  | searching _, .cluster (.patchPod ns name _ _), .ok pod => claimed ⟨(ns, name), pod, []⟩
  | claimed service, .cluster (.patchPod _ _ patch _), .ok _ =>
    if (patch.get? devicesToAllocate).isSome then erased service else settled none
  | erased service, .cluster (.patchPod ..), .ok _ => settled (some service)
  | claimed service, request, answer =>
    claimed { service with events := service.events ++ [⟨request, answer⟩] }
  | stage, _, _ => stage

def MayWrite (order : Order) : Stage → Key → Patch → Option String → Prop
  | searching seen, key, patch, version => patch = claimPatch ∧
    ∃ pod ∈ seen, keyOf pod = key ∧ pod.isClaimed = false ∧ version = pod.metadata.resourceVersion
  | claimed service, key, patch, version => key = service.key ∧
    (LeavesGrants patch ∨ ∃ demand ids, Wants service.pod demand ∧
      Resolves order demand.request service.events ids ∧ patch = erasePatch demand ∧
        version = service.pod.metadata.resourceVersion)
  | erased service, key, patch, _ => key = service.key ∧ LeavesGrants patch
  | settled _, _, _, _ => False

/-- A pod is claimed, and the last write to it is still to come. -/
def Holds (key : Key) : Stage → Prop
  | claimed service | erased service => service.key = key
  | searching _ | settled _ => False

end Stage

/-- Reads at any time, and the writes that the stage allows. -/
def protocol (order : Order) : Protocol interface Stage where
  allows stage request :=
    match request with
    | .cluster (.patchPod ns name patch version) => stage.MayWrite order (ns, name) patch version
    | _ => True
  next := Stage.learn

variable {order : Order} {service : Service} {key : Key}

@[simp] theorem protocol_next : (protocol order).next = Stage.learn := rfl

theorem allows_of_isQuiet {request : Request} (other : request.IsQuiet) (stage : Stage) :
    (protocol order).allows stage request := by
  cases request with
  | cluster call =>
    cases call with
    | patchPod ns name patch version => exact absurd trivial other
    | _ => trivial
  | _ => trivial

theorem learn_claimed {request : Request} (other : request.IsQuiet) (answer : Answer request) :
    (Stage.claimed service).learn request answer =
      .claimed { service with events := service.events ++ [⟨request, answer⟩] } := by
  cases request with
  | cluster call =>
    cases call with
    | patchPod ns name patch version => exact absurd trivial other
    | _ => rfl
  | _ => rfl

-- Only a claimed stage keeps a record of what is asked besides.
theorem learn_of_isQuiet {stage : Stage} (open_ : ∀ service, stage ≠ .claimed service)
    {request : Request} (other : request.IsQuiet) (answer : Answer request) :
    stage.learn request answer = stage := by
  cases stage with
  | claimed service => exact absurd rfl (open_ service)
  | _ =>
    cases request with
    | cluster call =>
      cases call with
      | listPods => exact absurd trivial other
      | patchPod ns name patch version => exact absurd trivial other
      | _ => rfl
    | _ => rfl

section Follows

variable {α : Type}

theorem quiet_follows {program : Program interface α} (asks : program.Asks Request.IsQuiet)
    {stage : Stage} (open_ : ∀ service, stage ≠ .claimed service) {ends : Stage → α → Prop}
    (suits : ∀ events a, program.Ends events a → ends stage a) :
    program.Follows (protocol order) ends stage :=
  asks.follows (fun _ => stage) (fun _ _ other => allows_of_isQuiet other stage)
    (fun _ _ answer other => learn_of_isQuiet open_ other answer) [] suits

-- What a claimed stage records is all that was asked.
theorem claimed_follows {program : Program interface α} (asks : program.Asks Request.IsQuiet)
    {ends : Stage → α → Prop}
    (suits : ∀ events a, program.Ends events a →
      ends (.claimed { service with events := service.events ++ events }) a) :
    program.Follows (protocol order) ends (.claimed service) := by
  obtain ⟨key, pod, events⟩ := service
  refine asks.follows (fun events => Stage.claimed ⟨key, pod, events⟩) ?_ ?_ events suits
  · exact fun _ _ other => allows_of_isQuiet other _
  · exact fun _ _ answer other => learn_claimed other answer

theorem callOr_follows {ε : Type} {f : ClusterError → ε} {call : Call} {stage : Stage}
    {good : Stage → call.Reply → Prop} {bad : Stage → ε → Prop}
    (allowed : (protocol order).allows stage (.cluster call))
    (ok : ∀ reply, good (stage.learn (.cluster call) (.ok reply)) reply)
    (error : ∀ error, bad (stage.learn (.cluster call) (.error error)) (f error)) :
    (callOr f call).run.Follows (protocol order) (Outcome good bad) stage := by
  refine ⟨allowed, fun answer => ?_⟩
  cases answer with
  | ok reply => exact ok reply
  | error e => exact error e

theorem patch_follows {claim : Claim} {changes : Patch} {version : Option String} {stage : Stage}
    {good : Stage → Unit → Prop} {bad : Stage → AllocationError → Prop}
    (allowed : stage.MayWrite order (claim.ns, claim.name) changes version)
    (ok : ∀ pod, good (stage.learn
      (.cluster (.patchPod claim.ns claim.name changes version)) (.ok pod)) ())
    (error : ∀ failure error, bad (stage.learn
      (.cluster (.patchPod claim.ns claim.name changes version)) (.error failure)) error) :
    (claim.patch changes version).run.Follows (protocol order) (Outcome good bad) stage := by
  have written : (callOr (.annotationUpdate claim.display)
      (.patchPod claim.ns claim.name changes version)).run.Follows (protocol order)
      (Outcome (fun stage _ => good stage ()) bad) stage :=
    callOr_follows allowed ok fun failure => error failure _
  exact Attempt.follows_bind written (fun _ _ => id) fun _ _ => id

theorem claimIn_follows (node : String) (attempts : Nat) (contended : String) (seen : List Pod) :
    (claimIn node attempts contended).run.Follows (protocol order)
      (Outcome (fun stage claim => stage = .claimed ⟨(claim.ns, claim.name), claim.pod, []⟩)
        fun _ _ => True)
      (.searching seen) := by
  induction attempts generalizing contended seen with
  | zero => trivial
  | succ attempts ih =>
    have listed : (callOr AllocationError.clusterAccess .listPods).run.Follows (protocol order)
        (Outcome (fun stage pods => stage = .searching pods) fun _ _ => True) (.searching seen) :=
      callOr_follows trivial (fun _ => rfl) fun _ => trivial
    refine Attempt.follows_bind listed (fun stage pods found => ?_) fun _ _ => id
    subst found
    split
    · trivial
    · next pod position chosen =>
      obtain ⟨member, waits⟩ := nextPod?_mem chosen
      refine ⟨⟨rfl, pod, member, rfl, Pod.isClaimed_of_waitsOn waits, rfl⟩, fun answer => ?_⟩
      cases answer with
      | ok claimed => rfl
      | error error =>
        show Program.Follows _ _ _ (ExceptT.run (if error.isConflict then _ else _))
        split
        · exact ih _ _
        · trivial

def Failed (key : Key) (stage : Stage) (_ : AllocationError) : Prop := stage.Holds key

def Served (order : Order) (stage : Stage) (response : ContainerResponse) : Prop :=
  ∃ service demand ids, stage = .settled (some service) ∧ Wants service.pod demand ∧
    Resolves order demand.request service.events ids ∧
    Answers order.config service.pod demand.container demand.request ids response

theorem leavesGrants_one {key : String} (other : devicesToAllocate ≠ key) (value : Option String) :
    LeavesGrants (.one key value) := by
  rw [LeavesGrants, Patch.get?_one, if_neg other]

theorem finish_follows (claim : Claim) (service : Service) (same : service.key = (claim.ns, claim.name)) :
    claim.finish.run.Follows (protocol order)
      (Outcome (fun stage _ => stage = .settled (some service)) (Failed service.key))
      (.erased service) := by
  have held : (Stage.erased service).Holds service.key := rfl
  have looked : (callOr (.annotationUpdate claim.display) (.getPod claim.ns claim.name)).run.Follows
      (protocol order) (Outcome (fun stage _ => stage = .erased service) (Failed service.key))
      (.erased service) :=
    callOr_follows trivial (fun _ => rfl) fun _ => held
  refine Attempt.follows_bind looked (fun stage fresh found => ?_) fun _ _ => id
  subst found
  cases decoded : grantsOf claim.display fresh with
  | error error => exact held
  | ok grants =>
    have last : ∀ patch, LeavesGrants patch →
        (claim.patch patch none).run.Follows (protocol order)
          (Outcome (fun stage _ => stage = .settled (some service)) (Failed service.key))
          (.erased service) := by
      intro patch leaves
      exact patch_follows ⟨same.symm, leaves⟩ (fun _ => rfl) fun _ _ => held
    show Program.Follows _ _ _ (ExceptT.run (if _ then _ else _))
    split
    · exact last _ (leavesGrants_one (by decide) _)
    · exact last _ (leavesGrants_one (by decide) _)

theorem prepareDirectory_follows (service : Service) (path : Path) :
    (prepareDirectory path).run.Follows (protocol order)
      (Outcome (fun stage _ => stage = .erased service) (Failed service.key)) (.erased service) := by
  refine ⟨trivial, fun made => ?_⟩
  cases made with
  | ok made => rfl
  | error error => exact (rfl : service.key = service.key)

theorem containerResponse_follows (order : Order) (service : Service) (pod : Pod) (container : Container)
    (request : List Grant) (ids : List String) :
    (containerResponse order.config pod container request ids).run.Follows (protocol order)
      (Outcome (fun stage response => stage = .erased service ∧
        Answers order.config pod container request ids response) (Failed service.key))
      (.erased service) := by
  rw [containerResponse]
  split
  · next partitioned =>
    refine ⟨rfl, ?_⟩
    rw [Answers, partitioned]
    exact onlyShows_visibleDevices ids
  · next shared =>
    refine ⟨trivial, fun identifier => ?_⟩
    refine Attempt.follows_bind (prepareDirectory_follows service _) (fun stage _ at_ => ?_)
      fun _ _ => id
    subst at_
    refine Attempt.follows_bind (prepareDirectory_follows service _) (fun stage _ at_ => ?_)
      fun _ _ => id
    subst at_
    refine ⟨rfl, ?_⟩
    rw [Answers, shared]
    exact ⟨identifier, limits_shares ..⟩

theorem settle_follows (claim : Claim) (service : Service) (demand : Demand) (ids : List String)
    (same : service.key = (claim.ns, claim.name)) (pod : service.pod = claim.pod)
    (wants : Wants service.pod demand)
    (resolves : Resolves order demand.request service.events ids) :
    (claim.settle order.config demand ids).run.Follows (protocol order)
      (Outcome (Served order) (Failed service.key)) (.claimed service) := by
  have learned : ∀ pod, (Stage.claimed service).learn (.cluster (.patchPod claim.ns claim.name
      (erasePatch demand) claim.pod.metadata.resourceVersion)) (.ok pod) = .erased service := by
    intro pod
    have names : ((erasePatch demand).get? devicesToAllocate).isSome = true := by
      rw [erasePatch, Patch.get?_one, if_pos rfl]
      rfl
    exact if_pos (e := Stage.settled none) names
  have erased : (claim.patch (erasePatch demand) claim.pod.metadata.resourceVersion).run.Follows
      (protocol order) (Outcome (fun stage _ => stage = .erased service) (Failed service.key))
      (.claimed service) :=
    patch_follows ⟨same.symm, .inr ⟨demand, ids, wants, resolves, rfl, by rw [pod]⟩⟩ learned
      fun _ _ => (rfl : service.key = service.key)
  refine Attempt.follows_bind erased (fun stage _ at_ => ?_) fun _ _ => id
  subst at_
  have answered := containerResponse_follows order service claim.pod demand.container
    demand.request ids
  refine Attempt.follows_bind answered (fun stage response done => ?_) fun _ _ => id
  obtain ⟨rfl, answers⟩ := done
  refine Attempt.follows_bind (finish_follows claim service same) (fun stage _ settled => ?_)
    fun _ _ => id
  exact ⟨service, demand, ids, settled, wants, resolves, pod.symm ▸ answers⟩

theorem wants_of_demand {claim : Claim} {ids : List String} {demand : Demand}
    (fits : claim.demand ids = .ok demand) : Wants claim.pod demand := by
  unfold Claim.demand grantsOf at fits
  cases decoded : Grants.decode ((claim.pod.annotation? devicesToAllocate).getD "") with
  | error error =>
    rw [decoded] at fits
    cases fits
  | ok grants =>
    rw [decoded] at fits
    dsimp only [Bind.bind, Except.bind] at fits
    split at fits
    · cases fits
    · next position request chosen =>
      by_cases counts : request.length ≠ ids.length
      · rw [if_pos counts] at fits
        cases fits
      · rw [if_neg counts] at fits
        split at fits
        · cases fits
        · next container found =>
          cases fits
          exact ⟨decoded, chosen, found⟩

def Consumed (order : Order) (key : Key) (stage : Stage) : Result → Prop
  | (.ok response, _) => Served order stage response
  | (.error error, _) => Failed key stage error

theorem consume_follows (claim : Claim) :
    (claim.consume order.config order.remembered order.ids).Follows (protocol order)
      (Consumed order (claim.ns, claim.name)) (.claimed ⟨(claim.ns, claim.name), claim.pod, []⟩) := by
  unfold Claim.consume
  split
  · exact (rfl : (claim.ns, claim.name) = (claim.ns, claim.name))
  · next demand fits =>
    refine follows_bind.2 (claimed_follows
      ((resolveAll_asks _ _ _).mono fun _ => Request.IsForDevices.isQuiet) fun events outcome ended => ?_)
    obtain ⟨outcome, remembered⟩ := outcome
    cases outcome with
    | error error => exact (rfl : (claim.ns, claim.name) = (claim.ns, claim.name))
    | ok ids =>
      refine follows_bind.2 ?_
      refine (settle_follows claim ⟨(claim.ns, claim.name), claim.pod, events⟩ demand ids rfl rfl
        (wants_of_demand fits) ⟨remembered, ended⟩).mono fun stage result suits => ?_
      cases result with
      | ok response => exact suits
      | error error => exact suits

theorem abandon_follows (claim : Claim) {stage : Stage} (held : stage.Holds (claim.ns, claim.name)) :
    claim.abandon.Follows (protocol order) (fun _ _ => True) stage := by
  have leaves : LeavesGrants ((Patch.one bindPhase (some Phase.failed.text)).insert assignedTime
      claim.originalTime) := by
    rw [LeavesGrants, Dictionary.get?_insert, if_neg (by decide), Patch.get?_one,
      if_neg (by decide)]
  have allowed : stage.MayWrite order (claim.ns, claim.name)
      ((Patch.one bindPhase (some Phase.failed.text)).insert assignedTime claim.originalTime) none := by
    cases stage with
    | searching seen => exact absurd held id
    | settled served => exact absurd held id
    | claimed service => exact ⟨Eq.symm held, .inl leaves⟩
    | erased service => exact ⟨Eq.symm held, leaves⟩
  have written : (claim.patch ((Patch.one bindPhase (some Phase.failed.text)).insert assignedTime
      claim.originalTime) none).run.Follows (protocol order)
      (Outcome (fun _ _ => True) fun _ _ => True) stage :=
    patch_follows allowed (fun _ => trivial) fun _ _ => trivial
  exact follows_bind.2 (written.mono fun _ _ _ => trivial)

def Ended (order : Order) (stage : Stage) (result : Result) : Prop :=
  ∀ response remembered, result = (.ok response, remembered) → Served order stage response

theorem serveQueue_follows :
    (serveQueue order.config order.remembered order.ids).Follows (protocol order) (Ended order)
      (.searching []) := by
  refine follows_bind.2 ((claimIn_follows _ _ _ _).mono fun stage outcome claimed => ?_)
  cases outcome with
  | error error => rintro _ _ ⟨⟩
  | ok claim =>
    change stage = _ at claimed
    subst claimed
    refine follows_bind.2 ((consume_follows claim).mono fun stage result consumed => ?_)
    obtain ⟨outcome, remembered⟩ := result
    cases outcome with
    | ok response =>
      rintro _ _ ⟨⟩
      exact consumed
    | error error =>
      refine follows_bind.2 ((abandon_follows claim consumed).mono fun stage _ _ => ?_)
      rintro _ _ ⟨⟩

theorem program_follows (order : Order) :
    order.program.Follows (protocol order) (Ended order) (.searching []) := by
  have quiet : ∀ request : Request, request.IsForLock → request.IsQuiet :=
    fun _ => Request.IsForLock.isQuiet
  refine follows_bind.2 (quiet_follows (NodeLock.acquire_asks.mono quiet) (fun _ same => by cases same)
    fun events outcome _ => ?_)
  cases outcome with
  | error error => rintro _ _ ⟨⟩
  | ok stamp =>
    refine follows_bind.2 (serveQueue_follows.mono fun stage result ended => ?_)
    have releases := ((queueLock order.config).release_asks stamp).mono quiet
    obtain ⟨outcome, remembered⟩ := result
    cases outcome with
    | error error =>
      -- A failed call may still be at its claim, and then records the release too.
      refine follows_bind.2 ?_
      have failed : ∀ (stage : Stage) (outcome : Except NodeLockError Unit),
          (pure (.error error, remembered) : Program interface Result).Follows (protocol order)
            (Ended order) stage := by
        rintro stage - _ _ ⟨⟩
      by_cases busy : ∃ service, stage = .claimed service
      · obtain ⟨service, rfl⟩ := busy
        exact claimed_follows releases fun _ outcome _ => failed _ outcome
      · exact quiet_follows releases (fun service same => busy ⟨service, same⟩)
          fun _ outcome _ => failed _ outcome
    | ok response =>
      have served := ended response remembered rfl
      obtain ⟨service, demand, ids, rfl, _⟩ := id served
      refine follows_bind.2 (quiet_follows releases (fun _ same => by cases same) fun _ _ _ => ?_)
      rintro _ _ ⟨⟩
      exact served

end Follows

end GpuShare.Agent.Claiming
