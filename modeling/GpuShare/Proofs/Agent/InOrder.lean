import GpuShare.Proofs.Agent.Remembered
import GpuShare.Proofs.Agent.ServedCall

/-!
Calls for shares one after another, on a cluster that nobody else disturbs. Every request of the pods that
wait is served once, in the order of the schedule.
-/

set_option autoImplicit false

namespace GpuShare.Agent.Serving

open Cluster Wire Claiming MigResolver

/-- Pods wait for devices of a node that can all be handed out, and nothing is in the way. -/
structure IsOpening (config : AgentConfig) (resolved : String → String) (state : State) : Prop where
  calm : state.world.IsCalm
  free : (queueLock config).IsAt state.world.connection.store.nodes none
  named : AreNamed state.pods
  ready : ∀ pod ∈ state.pods, IsReady config.node pod
  remembers : CanRemember config state.remembered
  resolves : ∀ pod ∈ state.pods, ∀ container, ∀ grant ∈ requestAt pod container,
    (resolveIn config.geometries state.remembered state.world grant.uuid).1.1 = .ok (resolved grant.uuid)
  prepares : ∀ pod ∈ state.pods, ∀ position container, requestAt pod position ≠ [] →
    pod.containers[position]? = some container →
      CanPrepare config state.world.disk pod container

def after (config : AgentConfig) (resource : Resource) (state : State) (calls : List (List String)) :
    State :=
  calls.foldl (fun state ids => (call config resource state ids).2) state

def grantsIn (pods : List Pod) (place container : Nat) : List Grant :=
  match pods[place]? with
  | some pod => grantsAt pod container
  | none => []

/-- Pods that still have requests have kept their times and phases. -/
def HaveKept (start now : List Pod) : Prop :=
  ∀ (place : Nat) (pod : Pod), now[place]? = some pod → HasRequest pod →
    ∃ first : Pod, start[place]? = some first ∧ HasRequest first ∧
      pod.annotation? assignedTime = first.annotation? assignedTime ∧
      pod.annotation? bindPhase = first.annotation? bindPhase

structure Serves (config : AgentConfig) (resolved : String → String) (start : List Pod) (turn : Turn)
    (before : List Pod) (answer : Except AllocationError AllocateResponse) (now : List Pod) : Prop where
  -- The request is all that is handed out here to its container.
  request : turn.request = (grantsIn before turn.pod turn.container).filter (·.isOf nvidia)
  -- The response is made for the container, and shows it the devices of the request in order.
  answered : ∃ pod container response, before[turn.pod]? = some pod ∧
    pod.containers[turn.container]? = some container ∧ answer = .ok ⟨[response]⟩ ∧
      Answers config pod container turn.request
        (turn.request.map fun grant => resolved grant.uuid) response ∧
      response.environment.get? visibleDevicesName =
        some (",".intercalate (turn.request.map fun grant => resolved grant.uuid))
  -- The request is erased, and no other grant.
  taken : ∀ place container, grantsIn now place container =
    if place = turn.pod ∧ container = turn.container then
      (grantsIn before place container).filter (!·.isOf nvidia)
    else grantsIn before place container
  -- A pod with requests left is as it was at the start.
  kept : HaveKept start now
  -- A pod with requests left is the next one.
  again : ∀ pod, now[turn.pod]? = some pod → HasRequest pod →
    nextPod? now config.node = some (pod, turn.pod)

variable {config : AgentConfig} {resource : Resource} {resolved : String → String} {state next : State}
  {ids : List String} {turn : Turn} {rest : List Turn} {pod served : Pod} {start now later : List Pod}

theorem IsOpening.canServe (opening : IsOpening config resolved state) :
    CanServe config resolved state :=
  ⟨opening.calm, opening.free, opening.named, fun pod member => .inl (opening.ready pod member),
    opening.remembers.isExplicit,
    fun pod member container grant wanted =>
      resolvable_of_resolveIn (opening.resolves pod member container grant wanted),
    opening.prepares⟩

theorem HaveKept.trans (first : HaveKept start now) (second : HaveKept now later) :
    HaveKept start later := by
  intro place pod held wants
  obtain ⟨middle, heldNow, wantsNow, time, phase⟩ := second place pod held wants
  obtain ⟨original, heldStart, wantsStart, also, same⟩ := first place middle heldNow wantsNow
  exact ⟨original, heldStart, wantsStart, time.trans also, phase.trans same⟩

section Step

variable (held : now[turn.pod]? = some pod) (is : IsServed turn pod served)

include held

theorem getElem?_served (place : Nat) :
    (now.set turn.pod served)[place]? = if place = turn.pod then some served else now[place]? := by
  obtain ⟨below, -⟩ := List.getElem?_eq_some_iff.1 held
  split
  · next same =>
    subst same
    exact List.getElem?_set_self below
  · next other => exact List.getElem?_set_ne (Ne.symm other)

include is

theorem haveKept_set : HaveKept now (now.set turn.pod served) := by
  intro place other here wants
  rw [getElem?_served held] at here
  split at here
  · next same =>
    subst same
    obtain rfl := Option.some.inj here
    obtain ⟨container, some_grant⟩ := wants
    refine ⟨pod, held, ⟨container, fun empty => some_grant ?_⟩, is.left ⟨container, some_grant⟩⟩
    have subset := is.requestAt_subset container
    rw [empty] at subset
    exact List.subset_nil.1 subset
  · exact ⟨other, here, wants, rfl, rfl⟩

theorem grantsIn_set (place container : Nat) :
    grantsIn (now.set turn.pod served) place container =
      if place = turn.pod ∧ container = turn.container then
        (grantsIn now place container).filter (!·.isOf nvidia)
      else grantsIn now place container := by
  unfold grantsIn
  rw [getElem?_served held]
  by_cases same : place = turn.pod
  · subst same
    rw [if_pos rfl, held]
    dsimp only
    rw [is.grants]
    simp
  · rw [if_neg same, if_neg fun both => same both.1]

end Step

-- One call serves the first request of the schedule and leaves the others.
theorem call_serves (can : CanServe config resolved state) (count : resource.kind = .count)
    (strategy : resource.strategy = .none) (first : schedule state.pods = turn :: rest)
    (fits : ids.length = turn.request.length) :
    CanServe config resolved (call config resource state ids).2 ∧
      schedule (call config resource state ids).2.pods = rest ∧
      Serves config resolved state.pods turn state.pods (call config resource state ids).1
        (call config resource state ids).2.pods := by
  have member : turn ∈ turns state.pods := by
    rw [← mem_schedule, first]
    exact List.mem_cons_self
  obtain ⟨pod, isFirst⟩ := isFirst_of_schedule can.pods first
  obtain ⟨response, served, container, next, ends, place, answers, is, pods, canNext⟩ :=
    call_first can count strategy isFirst fits
  rw [ends, pods]
  refine ⟨canNext, schedule_of_served first (is.mem_turns_set isFirst.held member), ?_, ?_, ?_, ?_, ?_⟩
  · obtain ⟨same, held, -, request, -⟩ := mem_turns.1 member
    rw [request, grantsIn, held]
    rfl
  · exact ⟨pod, container, response, isFirst.held, place, rfl, answers, shows_of_answers answers⟩
  · exact grantsIn_set isFirst.held is
  · exact haveKept_set isFirst.held is
  · intro again held wants
    rw [getElem?_served isFirst.held, if_pos rfl] at held
    obtain rfl := Option.some.inj held
    exact isFirst.selected_again is wants

theorem Serves.since {first before : List Pod} {answer : Except AllocationError AllocateResponse}
    (serves : Serves config resolved now turn before answer later) (kept : HaveKept first now) :
    Serves config resolved first turn before answer later :=
  ⟨serves.request, serves.answered, serves.taken, kept.trans serves.kept, serves.again⟩

theorem isBound_of_schedule (can : CanServe config resolved state) (none_left : schedule state.pods = [])
    {pod : Pod} (listed : pod ∈ state.pods) : IsBound pod := by
  rcases can.pods pod listed with ready | bound
  · obtain ⟨container, some_grant⟩ := ready.wants
    obtain ⟨place, held⟩ := List.mem_iff_getElem?.1 listed
    have waits : (⟨pod.assignedTime, place, container, requestAt pod container⟩ : Turn) ∈
        schedule state.pods := mem_schedule.2 (mem_turns.2 ⟨pod, held, rfl, rfl, some_grant⟩)
    rw [none_left] at waits
    cases waits
  · exact bound

-- The calls of a run serve the requests of the schedule, one after another.
theorem run_serves {calls : List (List String)} (can : CanServe config resolved state)
    (count : resource.kind = .count) (strategy : resource.strategy = .none)
    (fits : calls.map List.length <+: (schedule state.pods).map fun turn => turn.request.length) :
    (∀ (k : Nat) (ids : List String), calls[k]? = some ids →
      ∃ turn, (schedule state.pods)[k]? = some turn ∧
        Serves config resolved state.pods turn (after config resource state (calls.take k)).pods
          (call config resource (after config resource state (calls.take k)) ids).1
          (after config resource state (calls.take (k + 1))).pods) ∧
    (calls.length = (schedule state.pods).length →
      ∀ pod ∈ (after config resource state calls).pods, IsBound pod) := by
  -- After the first call the rest of the schedule is the schedule of what that call left.
  induction calls generalizing state with
  | nil =>
    refine ⟨nofun, fun all pod listed => isBound_of_schedule can ?_ listed⟩
    exact List.length_eq_zero_iff.1 all.symm
  | cons ids calls ih =>
    cases first : schedule state.pods with
    | nil =>
      rw [first] at fits
      cases List.prefix_nil.1 fits
    | cons turn rest =>
      rw [first, List.map_cons, List.map_cons, List.cons_prefix_cons] at fits
      obtain ⟨canNext, left, serves⟩ := call_serves can count strategy first fits.1
      have fitsRest := fits.2
      rw [← left] at fitsRest
      obtain ⟨others, bound⟩ := ih canNext fitsRest
      rw [left] at others bound
      refine ⟨fun k ids' here => ?_, fun all => bound (Nat.succ.inj all)⟩
      cases k with
      | zero =>
        obtain rfl := Option.some.inj here
        exact ⟨turn, rfl, serves⟩
      | succ k =>
        obtain ⟨other, there, servesOther⟩ := others k ids' here
        exact ⟨other, there, servesOther.since serves.kept⟩

/-- Requests are served in order, each by one call, and in the end all pods are bound. -/
theorem serves_in_order {calls : List (List String)} (opening : IsOpening config resolved state)
    (count : resource.kind = .count) (strategy : resource.strategy = .none)
    (fits : calls.map List.length <+: (schedule state.pods).map fun turn => turn.request.length) :
    (∀ (k : Nat) (ids : List String), calls[k]? = some ids →
      ∃ turn, (schedule state.pods)[k]? = some turn ∧
        Serves config resolved state.pods turn (after config resource state (calls.take k)).pods
          (call config resource (after config resource state (calls.take k)) ids).1
          (after config resource state (calls.take (k + 1))).pods) ∧
    (calls.length = (schedule state.pods).length →
      ∀ pod ∈ (after config resource state calls).pods,
        pod.annotation? bindPhase = some Phase.success.text) := by
  obtain ⟨each, all⟩ := run_serves opening.canServe count strategy fits
  exact ⟨each, fun complete pod listed => (all complete pod listed).phase⟩

def sharingAgent : AgentConfig where
  node := "node-a"
  countName := ""
  memoryName := ""
  coreName := ""
  priorityName := ""
  splitCount := 10
  memoryScaling := 1
  memoryFactor := 1
  mode := .hamiCore
  strategy := .none
  geometries := [⟨["A30"], [⟨"small", [⟨"1g.6gb", 6144, 4⟩]⟩]⟩]
  filter := {}
  paths := {}

def assignedPod (name time grants : String) (containers : List Container) : Pod where
  metadata := {
    ns := some "default", name := some name, uid := some name, resourceVersion := some "first"
    annotations := some (.ofList [(assignedNode, "node-a"), (assignedTime, time),
      (devicesToAllocate, grants)]) }
  spec := some ⟨none, containers⟩

/-- Two pods, of which the second was assigned first. -/
def twoPods : State where
  remembered := none
  world := {
    connection := { store := {
      pods := [
        assignedPod "late" "7"
          "GPU-1,NVIDIA,1000,30:;GPU-0[small-2],NVIDIA,2000,0:GPU-1,NVIDIA,10,0:"
          [⟨"main", [], .empty⟩, ⟨"side", [], .empty⟩],
        assignedPod "early" "5" "CPU-1,CPU,1,1:GPU-0[small-1],NVIDIA,1000,30:"
          [⟨"main", [], .empty⟩]]
      nodes := Dictionary.empty.insert "node-a"
        ⟨⟨none, some "node-a", none, some "first", none⟩⟩ } }
    inventory := {
      gpus := [⟨0, "GPU-0", "A30", 24576, true, true⟩, ⟨1, "GPU-1", "A30", 24576, false, true⟩]
      instances := [⟨0, "GPU-0", 1, "MIG-1", "1g.6gb"⟩, ⟨0, "GPU-0", 2, "MIG-2", "1g.6gb"⟩] }
    partitionTool := { exported :=
      ⟨"v1", Dictionary.empty.insert Mig.currentConfig [⟨.all, false, .empty⟩]⟩ } }

def instanceOf (uuid : String) : String :=
  if uuid = "GPU-0[small-1]" then "MIG-1"
  else if uuid = "GPU-0[small-2]" then "MIG-2"
  else uuid

theorem isOpening_twoPods : IsOpening sharingAgent instanceOf twoPods := by
  have reads : ∀ pod ∈ twoPods.pods,
      (Grants.decode ((pod.annotation? devicesToAllocate).getD "")).toBool = true := by decide +kernel
  have wants : ∀ pod ∈ twoPods.pods, requestAt pod 0 ≠ [] := by decide +kernel
  have fits : ∀ pod ∈ twoPods.pods, (podGrants pod).length = pod.containers.length := by
    decide +kernel
  have assigned : ∀ pod ∈ twoPods.pods, pod.annotation? assignedNode = some sharingAgent.node ∧
      pod.isClaimed = false ∧ pod.isSettled = false := by decide +kernel
  have resolves : ∀ pod ∈ twoPods.pods, ∀ grant ∈ (podGrants pod).flatten,
      (resolveIn sharingAgent.geometries twoPods.remembered twoPods.world grant.uuid).1.1 =
        .ok (instanceOf grant.uuid) := by decide +kernel
  have prepares : ∀ pod ∈ twoPods.pods, ∀ container ∈ pod.containers,
      (twoPods.world.disk.makeDirectories (stateDirectory sharingAgent pod container)).1 = .ok () ∧
        (twoPods.world.disk.makeDirectories sharingAgent.paths.lock).1 = .ok () := by decide +kernel
  refine ⟨⟨rfl, rfl, rfl, rfl⟩, ⟨_, rfl, rfl⟩, ⟨by decide +kernel, by decide +kernel⟩, ?_,
    .nothing, ?_, ?_⟩
  · intro pod listed
    refine ⟨(assigned pod listed).1, (assigned pod listed).2.1, (assigned pod listed).2.2, ?_,
      ⟨0, wants pod listed⟩, fun container some_grant => ?_⟩
    · have read := reads pod listed
      cases decoded : Grants.decode ((pod.annotation? devicesToAllocate).getD "") with
      | ok grants => exact ⟨grants, rfl⟩
      | error cause =>
        rw [decoded] at read
        cases read
    · rw [← fits pod listed]
      exact lt_length_of_requestAt some_grant
  · intro pod listed container grant wanted
    exact resolves pod listed grant (mem_flatten_of_requestAt wanted)
  · intro pod listed position container some_grant held _
    exact prepares pod listed container (List.mem_of_getElem? held)

-- The pod assigned first comes first, though it is listed last.
theorem schedule_twoPods : schedule twoPods.pods = [
    ⟨5, 1, 0, [⟨"GPU-0[small-1]", "NVIDIA", 1000, 30⟩]⟩,
    ⟨7, 0, 0, [⟨"GPU-1", "NVIDIA", 1000, 30⟩]⟩,
    ⟨7, 0, 1, [⟨"GPU-0[small-2]", "NVIDIA", 2000, 0⟩, ⟨"GPU-1", "NVIDIA", 10, 0⟩]⟩] := by
  have listed : turns twoPods.pods = [
      ⟨7, 0, 0, [⟨"GPU-1", "NVIDIA", 1000, 30⟩]⟩,
      ⟨7, 0, 1, [⟨"GPU-0[small-2]", "NVIDIA", 2000, 0⟩, ⟨"GPU-1", "NVIDIA", 10, 0⟩]⟩,
      ⟨5, 1, 0, [⟨"GPU-0[small-1]", "NVIDIA", 1000, 30⟩]⟩] := by decide +kernel
  -- Sorting does not compute here, but a list in order with the same requests is the schedule.
  refine (eq_schedule ?_ fun turn => ?_).symm
  · simp [Turn.key, Turn.place, Prod.Lex.toLex_lt_toLex]
  · rw [listed]
    exact (List.perm_append_comm : ([_] ++ [_, _]).Perm ([_, _] ++ [_])).mem_iff

def shares : Resource := ⟨"volcano.sh/vgpu-number", .count, .none⟩

def sharesOf (ids : List String) :
    Program interface (Except AllocationError AllocateResponse × Option Mig.Partition) :=
  allocate sharingAgent none shares ⟨[ids]⟩

def threeCalls : List (List String) := [["GPU-0-0"], ["GPU-0-1"], ["GPU-0-2", "GPU-1-0"]]

-- The two pods are served in three calls, the one assigned first in the first.
theorem serves_in_order_twoPods :
    (∀ (k : Nat) (ids : List String) (shown : String), threeCalls[k]? = some ids →
      ["MIG-1", "GPU-1", "MIG-2,GPU-1"][k]? = some shown →
      ∃ response,
        (call sharingAgent shares (after sharingAgent shares twoPods (threeCalls.take k)) ids).1 =
          .ok ⟨[response]⟩ ∧
        response.environment.get? visibleDevicesName = some shown) ∧
    ∀ pod ∈ (after sharingAgent shares twoPods threeCalls).pods,
      pod.annotation? bindPhase = some Phase.success.text := by
  have count : shares.kind = .count := rfl
  have strategy : shares.strategy = .none := rfl
  have fits : threeCalls.map List.length <+:
      (schedule twoPods.pods).map fun turn => turn.request.length := by
    rw [schedule_twoPods]
    exact List.prefix_refl _
  obtain ⟨each, all⟩ := serves_in_order isOpening_twoPods count strategy fits
  refine ⟨fun k ids shown called expected => ?_, all (by rw [schedule_twoPods]; rfl)⟩
  obtain ⟨turn, scheduled, serves⟩ := each k ids called
  obtain ⟨pod, container, response, -, -, answer, -, shows⟩ := serves.answered
  refine ⟨response, answer, shows.trans ?_⟩
  -- The devices shown are those of the turn of the call.
  rw [schedule_twoPods] at scheduled
  match k with
  | 0 | 1 | 2 =>
    cases scheduled
    cases expected
    decide +kernel
  | _ + 3 => cases scheduled

end GpuShare.Agent.Serving
