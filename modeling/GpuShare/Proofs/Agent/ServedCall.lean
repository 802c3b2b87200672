import GpuShare.Proofs.Agent.Resolution
import GpuShare.Proofs.Agent.Serving

/-!
One call for shares on a calm cluster. It serves the first request of the schedule, and leaves the rest of
the schedule to the calls after it.
-/

set_option autoImplicit false

namespace GpuShare.Agent.Serving

open Cluster Wire Claiming MigResolver

structure State where
  remembered : Option Mig.Partition
  world : World

def State.pods (state : State) : List Pod := state.world.connection.store.pods

def call (config : AgentConfig) (resource : Resource) (state : State) (ids : List String) :
    Except AllocationError AllocateResponse × State :=
  match (allocate config state.remembered resource ⟨[ids]⟩).run World.serve state.world with
  | ((answer, remembered), world) => (answer, ⟨remembered, world⟩)

structure CanServe (config : AgentConfig) (resolved : String → String) (state : State) : Prop where
  calm : state.world.IsCalm
  free : (queueLock config).IsAt state.world.view.nodes none
  named : AreNamed state.pods
  pods : ∀ pod ∈ state.pods, IsReady config.node pod ∨ IsBound pod
  explicit : IsExplicit state.remembered
  resolves : ∀ pod ∈ state.pods, ∀ container, ∀ grant ∈ requestAt pod container,
    Resolvable config.geometries state.remembered state.world grant.uuid (resolved grant.uuid)
  prepares : ∀ pod ∈ state.pods, ∀ position container, requestAt pod position ≠ [] →
    pod.containers[position]? = some container →
      CanPrepare config state.world.disk pod container

section Claims

variable {pod served : Pod} {demand : Demand} {claim : Claim} {patch : Patch} {version : String}
  {ids : List String} {turn : Turn}

theorem annotation?_patchedPod_one (pod : Pod) (key : String) (value : Option String)
    (version other : String) :
    (patchedPod pod (.one key value) version).annotation? other =
      if other = key then value else pod.annotation? other :=
  annotation?_patched_one pod.metadata key value version other

theorem wants_claimed (wants : Wants pod demand) (version : String) :
    Wants (patchedPod pod claimPatch version) demand := by
  refine ⟨?_, wants.next, wants.container⟩
  rw [claimPatch, annotation?_patchedPod_one, if_neg (by decide)]
  exact wants.grants

-- A call that carries as many IDs as the request has entries fits it.
theorem demand_of_wants (wants : Wants claim.pod demand) (fits : ids.length = demand.request.length) :
    claim.demand ids = .ok demand := by
  have read : grantsOf claim.display claim.pod = .ok demand.grants := by
    rw [grantsOf, wants.grants]
  unfold Claim.demand
  rw [read]
  dsimp only [Bind.bind, Except.bind]
  rw [wants.next]
  dsimp only
  rw [if_neg (by simp [fits]), wants.container]
  rfl

def withoutRequest (pod : Pod) (demand : Demand) (claimed erased : String) : Pod :=
  patchedPod (patchedPod pod claimPatch claimed) (erasePatch demand) erased

theorem annotation?_withoutRequest (pod : Pod) (demand : Demand) (claimed erased key : String)
    (notTime : key ≠ assignedTime) (notDevices : key ≠ devicesToAllocate) :
    (withoutRequest pod demand claimed erased).annotation? key = pod.annotation? key := by
  rw [withoutRequest, erasePatch, annotation?_patchedPod_one, if_neg notDevices, claimPatch,
    annotation?_patchedPod_one, if_neg notTime]

theorem grantsAt_withoutRequest (wants : Wants pod demand) (claimed erased : String) (container : Nat) :
    grantsAt (withoutRequest pod demand claimed erased) container =
      if container = demand.position then (grantsAt pod container).filter (!·.isOf nvidia)
      else grantsAt pod container := by
  rw [withoutRequest, (wants_claimed wants claimed).grantsAt_erased,
    grantsAt_of_leaves leavesGrants_claimPatch]

theorem Finishes.leaves (finishes : Finishes claim pod patch) : LeavesGrants patch := by
  cases finishes with
  | givenBack _ => exact leavesGrants_one (by decide) _
  | bound _ => exact leavesGrants_one (by decide) _

theorem Finishes.requestAt_eq (finishes : Finishes claim pod patch) (version : String)
    (container : Nat) : requestAt (patchedPod pod patch version) container = requestAt pod container := by
  rw [requestAt, grantsAt_of_leaves finishes.leaves]
  rfl

-- A pod that was claimed, whose request was erased, after the last write.
theorem isServed_of_finishes (wants : Wants pod demand) {claimed erased : String}
    (original : claim.originalTime = pod.annotation? assignedTime)
    (finishes : Finishes claim (withoutRequest pod demand claimed erased) patch)
    (place : demand.position = turn.container) (version : String) :
    IsServed turn pod (patchedPod (withoutRequest pod demand claimed erased) patch version) := by
  have same := fun container => finishes.requestAt_eq version container
  refine ⟨rfl, ⟨rfl, rfl⟩, rfl, ?_, ?_, ?_, ?_, ?_⟩
  · have kept := annotation?_withoutRequest pod demand claimed erased assignedNode
      (by decide) (by decide)
    cases finishes with
    | givenBack _ => rw [annotation?_patchedPod_one, if_neg (by decide), kept]
    | bound _ => rw [annotation?_patchedPod_one, if_neg (by decide), kept]
  · obtain ⟨grants, reads⟩ := reads_erased (wants_claimed wants claimed) erased
    refine ⟨grants, ?_⟩
    rw [annotation?_patchedPod, show patch.get? devicesToAllocate = none from finishes.leaves]
    exact reads
  · intro container
    rw [grantsAt_of_leaves finishes.leaves, grantsAt_withoutRequest wants, place]
  · -- With requests left the pod was not bound but given back.
    rintro ⟨container, some_grant⟩
    rw [same] at some_grant
    cases finishes with
    | givenBack _ =>
      rw [annotation?_patchedPod_one, if_pos rfl, annotation?_patchedPod_one, if_neg (by decide),
        annotation?_withoutRequest _ _ _ _ _ (by decide) (by decide)]
      exact ⟨original, rfl⟩
    | bound empty => exact absurd (empty container) some_grant
  · intro empty
    cases finishes with
    | givenBack left =>
      obtain ⟨container, some_grant⟩ := left
      rw [← same, empty] at some_grant
      exact absurd rfl some_grant
    | bound _ => rw [annotation?_patchedPod_one, if_pos rfl]

end Claims

section Calls

variable {config : AgentConfig} {resource : Resource} {resolved : String → String} {state : State}
  {world after : World} {ids : List String} {turn : Turn} {rest : List Turn} {pod : Pod}
  {demand : Demand}

theorem refitted_view (refitted : world.Refitted after) :
    after.view = { world.view with partitionTool := after.partitionTool } := by
  obtain ⟨_, _, rfl⟩ := refitted
  rfl

theorem refitted_isCalm (refitted : world.Refitted after) (calm : world.IsCalm) : after.IsCalm := by
  obtain ⟨_, _, rfl⟩ := refitted
  exact ⟨calm.faults, calm.podConflicts, calm.podConflictAfter, calm.nodeConflicts⟩

theorem resolvable_of_devices {remembered : Option Mig.Partition} {id resolved : String}
    (resolvable : Resolvable config.geometries remembered world id resolved)
    (same : after.view.devices = world.view.devices) :
    Resolvable config.geometries remembered after id resolved := by
  obtain ⟨inventory, tool⟩ := Prod.mk.inj same
  exact resolvable.congr inventory tool

structure Keeps (config : AgentConfig) (remembered : Option Mig.Partition) (world : World)
    (now : Option Mig.Partition) (after : World) : Prop where
  calm : after.IsCalm
  disk : world.view.disk.Becomes after.view.disk
  explicit : IsExplicit now
  resolvable : ∀ id resolved, Resolvable config.geometries remembered world id resolved →
    Resolvable config.geometries now after id resolved

theorem run_consume (claim : Claim) {index : Nat} {remembered : Option Mig.Partition}
    (calm : world.IsCalm) (are : AreNamed world.view.pods) (explicit : IsExplicit remembered)
    (held : world.view.pods[index]? = some claim.pod)
    (keyed : keyOf claim.pod = (claim.ns, claim.name)) (wants : Wants claim.pod demand)
    (fits : ids.length = demand.request.length)
    (resolves : ∀ grant ∈ demand.request,
      Resolvable config.geometries remembered world grant.uuid (resolved grant.uuid))
    (can : CanPrepare config world.view.disk claim.pod demand.container) :
    ∃ response now erased patch version after,
      (claim.consume config remembered ids).run World.serve world = ((.ok response, now), after) ∧
        Answers config claim.pod demand.container demand.request
          (demand.request.map fun grant => resolved grant.uuid) response ∧
        Finishes claim (patchedPod claim.pod (erasePatch demand) erased) patch ∧
        after.view.nodes = world.view.nodes ∧
        after.view.pods = world.view.pods.set index
          (patchedPod (patchedPod claim.pod (erasePatch demand) erased) patch version) ∧
        Keeps config remembered world now after := by
  -- All devices are resolved before the first write, and resolving leaves the pods alone.
  obtain ⟨now, resolving, resolves, leaves⟩ := run_resolveAll explicit resolves
  have refitted := refitted_view leaves.refitted
  have held : resolving.view.pods[index]? = some claim.pod := by
    rw [refitted]
    exact held
  have are : AreNamed resolving.view.pods := by
    rw [refitted]
    exact are
  have can : CanPrepare config resolving.view.disk claim.pod demand.container := by
    rw [refitted]
    exact can
  obtain ⟨response, erased, patch, version, last, disk, after, settles, answers, finishes, calm, grown,
    is, written⟩ := run_settle claim (refitted_isCalm leaves.refitted calm) are held keyed wants can
      (demand.request.map fun grant => resolved grant.uuid)
  subst is
  have devices : after.view.devices = resolving.view.devices := by
    rw [written]
    rfl
  rw [refitted] at written grown
  refine ⟨response, now, erased, patch, version, after, ?_, answers, finishes, ?_, ?_, calm, ?_,
    leaves.explicit, ?_⟩
  · unfold Claim.consume
    rw [demand_of_wants wants fits]
    dsimp only
    rw [World.run_program_bind resolves]
    dsimp only
    rw [World.run_program_bind settles]
    rfl
  · rw [written]
  · rw [written]
  · rw [written]
    exact grown
  · intro id resolved resolvable
    exact resolvable_of_devices (leaves.resolvable id resolved resolvable) devices

theorem run_serveQueue {remembered : Option Mig.Partition} (calm : world.IsCalm)
    (are : AreNamed world.view.pods) (explicit : IsExplicit remembered)
    (first : IsFirst config.node world.view.pods turn pod) (wants : Wants pod demand)
    (place : demand.position = turn.container) (fits : ids.length = demand.request.length)
    (resolves : ∀ grant ∈ demand.request,
      Resolvable config.geometries remembered world grant.uuid (resolved grant.uuid))
    (can : CanPrepare config world.view.disk pod demand.container) :
    ∃ response now served after, (serveQueue config remembered ids).run World.serve world =
        ((.ok response, now), after) ∧
      Answers config pod demand.container demand.request
        (demand.request.map fun grant => resolved grant.uuid) response ∧
      IsServed turn pod served ∧ after.view.nodes = world.view.nodes ∧
      after.view.pods = world.view.pods.set turn.pod served ∧
      Keeps config remembered world now after := by
  obtain ⟨below, -⟩ := List.getElem?_eq_some_iff.1 first.held
  obtain ⟨version, claimed, claims, calm, view⟩ := run_claimNext calm are first.held first.selected
  have devices : claimed.view.devices = world.view.devices := by
    rw [view]
    rfl
  have held : claimed.view.pods[turn.pod]? = some (claimOf pod version).pod := by
    rw [view]
    exact List.getElem?_set_self below
  have are : AreNamed claimed.view.pods := by
    rw [view]
    exact are.set first.held ⟨rfl, rfl⟩
  have can : CanPrepare config claimed.view.disk (claimOf pod version).pod demand.container := by
    rw [view]
    exact can
  obtain ⟨response, now, erased, patch, last, after, consumes, answers, finishes, nodes, pods, keeps⟩ :=
    run_consume (claimOf pod version) calm are explicit held rfl (wants_claimed wants version) fits
      (fun grant member => resolvable_of_devices (resolves grant member) devices) can
  have disk : claimed.view.disk = world.view.disk := by
    rw [view]
  have served := isServed_of_finishes wants rfl finishes place last
  refine ⟨response, now, _, after, ?_, answers.congr rfl, served, ?_, ?_, keeps.calm, ?_, keeps.explicit, ?_⟩
  · unfold serveQueue
    rw [World.run_program_bind claims]
    dsimp only
    rw [World.run_program_bind consumes]
    rfl
  · rw [nodes, view]
  · rw [pods, view]
    dsimp only
    rw [List.set_set]
    rfl
  · rw [← disk]
    exact keeps.disk
  · intro id resolved resolvable
    exact keeps.resolvable id resolved (resolvable_of_devices resolvable devices)

theorem run_serveLocked {remembered : Option Mig.Partition} (calm : world.IsCalm)
    (free : (queueLock config).IsAt world.view.nodes none) (are : AreNamed world.view.pods)
    (explicit : IsExplicit remembered) (first : IsFirst config.node world.view.pods turn pod)
    (wants : Wants pod demand) (place : demand.position = turn.container)
    (fits : ids.length = demand.request.length)
    (resolves : ∀ grant ∈ demand.request,
      Resolvable config.geometries remembered world grant.uuid (resolved grant.uuid))
    (can : CanPrepare config world.view.disk pod demand.container) :
    ∃ response now served after, (serveLocked config remembered ids).run World.serve world =
        ((.ok response, now), after) ∧
      Answers config pod demand.container demand.request
        (demand.request.map fun grant => resolved grant.uuid) response ∧
      IsServed turn pod served ∧ (queueLock config).IsAt after.view.nodes none ∧
      after.view.pods = world.view.pods.set turn.pod served ∧
      Keeps config remembered world now after := by
  obtain ⟨stamp, nodes, locked, acquires, calm, view, held⟩ := NodeLock.run_acquire calm free
  have devices : locked.view.devices = world.view.devices := by
    rw [view]
    rfl
  have pods : locked.view.pods = world.view.pods := by
    rw [view]
  have disk : locked.view.disk = world.view.disk := by
    rw [view]
  rw [← pods] at are first
  rw [← disk] at can
  obtain ⟨response, now, served, settled, serves, answers, isServed, same, changed, keeps⟩ :=
    run_serveQueue calm are explicit first wants place fits
      (fun grant member => resolvable_of_devices (resolves grant member) devices) can
  have held : (queueLock config).IsAt settled.view.nodes (some stamp) := by
    rw [same, view]
    exact held
  obtain ⟨last, after, releases, calm, written, free⟩ := NodeLock.run_release keeps.calm held
  have devicesNow : after.view.devices = settled.view.devices := by
    rw [written]
    rfl
  refine ⟨response, now, served, after, ?_, answers, isServed, ?_, ?_, calm, ?_, keeps.explicit, ?_⟩
  · unfold serveLocked
    rw [World.run_program_bind acquires]
    dsimp only
    rw [World.run_program_bind serves, World.run_program_bind releases]
    rfl
  · rw [written]
    exact free
  · rw [written, ← pods]
    exact changed
  · rw [written, ← disk]
    exact keeps.disk
  · intro id resolved resolvable
    exact resolvable_of_devices
      (keeps.resolvable id resolved (resolvable_of_devices resolvable devices)) devicesNow

theorem call_eq (count : resource.kind = .count) (strategy : resource.strategy = .none)
    {response : ContainerResponse} {now : Option Mig.Partition}
    (serves : (serveLocked config state.remembered ids).run World.serve state.world =
      ((.ok response, now), after)) :
    call config resource state ids = (.ok ⟨[response]⟩, ⟨now, after⟩) := by
  have one : ¬ 1 < [ids].length := by simp
  unfold call allocate
  rw [if_neg one, if_neg (by rw [strategy]; nofun), count]
  dsimp only
  rw [World.run_program_bind serves]
  rfl

-- A call serves the first request of the schedule.
theorem call_first (can : CanServe config resolved state) (count : resource.kind = .count)
    (strategy : resource.strategy = .none) (first : IsFirst config.node state.pods turn pod)
    (fits : ids.length = turn.request.length) :
    ∃ response served container next, call config resource state ids = (.ok ⟨[response]⟩, next) ∧
      pod.containers[turn.container]? = some container ∧
      Answers config pod container turn.request
        (turn.request.map fun grant => resolved grant.uuid) response ∧
      IsServed turn pod served ∧ next.pods = state.pods.set turn.pod served ∧
      CanServe config resolved next := by
  obtain ⟨demand, wants, place, request⟩ := first.wants
  have listed : pod ∈ state.pods := List.mem_of_getElem? first.held
  obtain ⟨all, some_grant⟩ := wants.request_eq
  have all : demand.request = requestAt pod demand.position := all
  rw [all] at some_grant
  obtain ⟨response, now, served, after, serves, answers, isServed, free, pods, keeps⟩ :=
    run_serveLocked can.calm can.free can.named can.explicit first wants place
      (by rw [fits, request])
      (fun grant member => can.resolves pod listed demand.position grant (by rwa [← all]))
      (can.prepares pod listed demand.position demand.container some_grant wants.container)
  rw [request] at answers
  have members : ∀ other ∈ after.view.pods, other ∈ state.pods ∨ other = served := by
    intro other member
    rw [pods] at member
    exact List.mem_or_eq_of_mem_set member
  refine ⟨response, served, demand.container, ⟨now, after⟩, call_eq count strategy serves, ?_, answers,
    isServed, pods, keeps.calm, free, ?_, ?_, keeps.explicit, ?_, ?_⟩
  · rw [← place]
    exact wants.container
  · show AreNamed after.view.pods
    rw [pods]
    exact can.named.set first.held isServed.named
  · intro other member
    rcases members other member with old | rfl
    · exact can.pods other old
    · exact isServed.ready first.ready
  · intro other member position grant wanted
    rcases members other member with old | rfl
    · exact keeps.resolvable _ _ (can.resolves other old position grant wanted)
    · exact keeps.resolvable _ _
        (can.resolves pod listed position grant (isServed.requestAt_subset position wanted))
  · -- Directories that were made for this call are not in the way of later ones.
    intro other member position container some_grant held
    rcases members other member with old | rfl
    · exact (can.prepares other old position container some_grant held).becomes keeps.disk
    · rw [isServed.containers_eq] at held
      have wanted : requestAt pod position ≠ [] := by
        intro empty
        have subset := isServed.requestAt_subset position
        rw [empty] at subset
        exact some_grant (List.subset_nil.1 subset)
      have still := can.prepares pod listed position container wanted held
      exact isServed.canPrepare (still.becomes keeps.disk)

end Calls

end GpuShare.Agent.Serving
