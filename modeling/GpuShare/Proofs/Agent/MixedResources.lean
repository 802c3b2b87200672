import Mathlib.Data.List.Forall2
import Mathlib.Data.List.Perm.Basic
import GpuShare.Proofs.Lists
import GpuShare.Proofs.Dictionary
import GpuShare.Proofs.Mig.Listing
import GpuShare.Proofs.Agent.Alone
import GpuShare.Proofs.Agent.CallParts
import GpuShare.Proofs.Agent.ContainerResponse

/-!
The resources of a node under the mixed strategy. Whole devices are advertised by one resource and the
instances of each profile by one other, so every device is advertised once. A call is checked against the IDs
that its own resource advertises, and changes nothing.
-/

set_option autoImplicit false

namespace GpuShare

namespace Agent

open Program Attempt

variable {config : AgentConfig} {gpus : List Device.Gpu} {instances : List Device.MigInstance}

/-! ## What is advertised -/

section Advertised

theorem mem_profilesOf {profile : String} :
    profile ∈ profilesOf instances ↔ ∃ mig ∈ instances, mig.profile = profile := by
  simp [profilesOf, Dictionary.mem_keys_ofList]

def mixedIds (gpus : List Device.Gpu) (instances : List Device.MigInstance) : ResourceKind → List DeviceId
  | .instances profile => instanceIds instances profile
  | _ => wholeIds gpus

def handedOut (gpus : List Device.Gpu) (instances : List Device.MigInstance) : List String :=
  (gpus.filter fun gpu => !gpu.migEnabled).map (·.uuid) ++ instances.map (·.uuid)

theorem mixedIds_perm : (((mixedKinds instances).flatMap (mixedIds gpus instances)).map (·.id)).Perm
    (handedOut gpus instances) := by
  have byProfile : ((profilesOf instances).flatMap fun profile =>
      instances.filter (·.profile == profile)).Perm instances :=
    flatMap_filter_perm (·.profile) (Dictionary.nodup_keys _) fun mig member =>
      mem_profilesOf.2 ⟨mig, member, rfl⟩
  have whole : (wholeIds gpus).map (·.id) = (gpus.filter fun gpu => !gpu.migEnabled).map (·.uuid) := by
    simp [wholeIds]
  rw [mixedKinds, List.flatMap_cons, List.map_append, handedOut]
  refine (List.Perm.of_eq whole).append ?_
  refine List.Perm.trans (List.Perm.of_eq ?_) (byProfile.map (·.uuid))
  simp [List.flatMap_map, List.map_flatMap, mixedIds, instanceIds, Function.comp_def]

end Advertised

/-! ## Calls -/

section Calls

variable {world : World} {kind : ResourceKind} {request : AllocateRequest}

structure World.Shows (world : World) (gpus : List Device.Gpu) (instances : List Device.MigInstance) :
    Prop where
  gpus : world.inventory.listGpus = .ok gpus
  instances : world.inventory.listInstances = .ok instances

theorem resources_run (mixed : config.strategy = .mixed) (shows : world.Shows gpus instances) :
    world.run (resources config) = (.ok ((mixedKinds instances).map (·.resource config)), world) := by
  unfold resources
  rw [mixed]
  dsimp only
  rw [World.run_ask_bind]
  exact World.run_orFail_bind world _ shows.instances _

theorem deviceIds_run (mixed : config.strategy = .mixed) (shows : world.Shows gpus instances)
    (among : kind ∈ mixedKinds instances) :
    world.run ((kind.resource config).deviceIds config) = (.ok (mixedIds gpus instances kind), world) := by
  unfold Resource.deviceIds
  rw [World.run_ask_bind]
  refine (World.run_orFail_bind world _ shows.gpus _).trans ?_
  obtain rfl | member := List.mem_cons.1 among
  · simp only [ResourceKind.resource, mixed, if_true]
    rfl
  · obtain ⟨profile, -, rfl⟩ := List.mem_map.1 member
    exact World.run_orFail_bind world _ shows.instances _

theorem checkServed_eq (resource : Resource) (served : List DeviceId) (containers : List ContainerRequest) :
    checkServed resource served containers =
      match containers.flatten.find? fun id => !served.any (·.id == id) with
      | some id => .error (.unknownDevice id resource.name)
      | none => .ok () := by
  induction containers with
  | nil => rfl
  | cons ids others ih =>
    rw [checkServed, List.flatten_cons, List.find?_append]
    cases ids.find? fun id => !served.any (·.id == id) with
    | some id => rfl
    | none => exact ih

/-- If its resource serves all that a call asks for, each container sees the devices it asks for and gets nothing
else. Otherwise the call is told the first ID that is not served. -/
structure IsVerdict (name : String) (served : List String) (request : AllocateRequest)
    (result : Except AllocationError AllocateResponse) : Prop where
  accepts : (∀ id ∈ request.containers.flatten, id ∈ served) →
    ∃ response, result = .ok response ∧ List.Forall₂ OnlyShows request.containers response.containers
  refuses : ∀ before id after, request.containers.flatten = before ++ id :: after →
    (∀ other ∈ before, other ∈ served) → id ∉ served → result = .error (.unknownDevice id name)

theorem isVerdict_checkServed (resource : Resource) (served : List DeviceId) (request : AllocateRequest) :
    IsVerdict resource.name (served.map (·.id)) request
      ((checkServed resource served request.containers).map fun _ =>
        ⟨request.containers.map visibleDevices⟩) := by
  have unserved {id : String} : (!served.any (·.id == id)) = true ↔ id ∉ served.map (·.id) := by
    simp
  rw [checkServed_eq]
  constructor
  · intro all
    rw [List.find?_eq_none.2 fun id member => fun missing => unserved.1 missing (all id member)]
    refine ⟨_, rfl, ?_⟩
    rw [List.forall₂_map_right_iff, List.forall₂_same]
    exact fun ids _ => onlyShows_visibleDevices ids
  · intro before id after split known missing
    have first : request.containers.flatten.find? (fun id => !served.any (·.id == id)) = some id := by
      rw [List.find?_eq_some_iff_append]
      refine ⟨unserved.2 missing, before, after, split, fun other member => ?_⟩
      simpa using known other member
    rw [first]
    rfl

theorem passThrough_run (mixed : config.strategy = .mixed) (shows : world.Shows gpus instances)
    (among : kind ∈ mixedKinds instances) (request : AllocateRequest) :
    world.run (passThrough config (kind.resource config) request) =
      ((checkServed (kind.resource config) (mixedIds gpus instances kind) request.containers).map
        fun _ => ⟨request.containers.map visibleDevices⟩, world) := by
  have explained : world.run (((kind.resource config).deviceIds config).explaining AllocationError.catalog) =
      (.ok (mixedIds gpus instances kind), world) := by
    have advertises := deviceIds_run mixed shows among
    unfold World.run at advertises ⊢
    refine (Program.run_bind (I := interface) World.serve _ _ world).trans ?_
    rw [advertises]
    rfl
  unfold passThrough
  rw [World.run_bind_ok explained]
  cases checkServed (kind.resource config) (mixedIds gpus instances kind) request.containers with
  | ok done => rfl
  | error e => rfl

theorem allocate_run_mixed (mixed : config.strategy = .mixed) (shows : world.Shows gpus instances)
    (among : kind ∈ mixedKinds instances) (single : request.containers.length ≤ 1)
    (remembered : Option Mig.Partition) :
    (allocate config remembered (kind.resource config) request).run World.serve world =
      (((checkServed (kind.resource config) (mixedIds gpus instances kind) request.containers).map
        fun _ => ⟨request.containers.map visibleDevices⟩, remembered), world) := by
  have strategy : (kind.resource config).strategy = .mixed := mixed
  unfold allocate
  rw [if_neg (Nat.not_lt.2 single), if_pos strategy]
  exact World.run_program_bind (passThrough_run mixed shows among request) _

theorem allocate_asks_mixed (resource : Resource) (mixed : resource.strategy = .mixed)
    (remembered : Option Mig.Partition) (request : AllocateRequest) :
    (allocate config remembered resource request).Asks Request.IsLook := by
  unfold allocate
  split
  · trivial
  · exact Program.asks_bind (passThrough_asks config resource request) fun _ => trivial

namespace IsVerdict

variable {name id : String} {served : List String} {result : Except AllocationError AllocateResponse}

theorem unknown_of_not_mem (verdict : IsVerdict name served request result)
    (asked : id ∈ request.containers.flatten) (missing : id ∉ served) :
    ∃ unknown, result = .error (.unknownDevice unknown name) := by
  cases first : request.containers.flatten.find? fun other => decide (other ∉ served) with
  | none => exact absurd missing (by simpa using List.find?_eq_none.1 first id asked)
  | some unknown =>
    obtain ⟨unserved, before, after, split, known⟩ := List.find?_eq_some_iff_append.1 first
    refine ⟨unknown, verdict.refuses before unknown after split (fun other member => ?_) ?_⟩
    · simpa using known other member
    · simpa using unserved

theorem mem_of_ok {response : AllocateResponse} (verdict : IsVerdict name served request result)
    (accepted : result = .ok response) (asked : id ∈ request.containers.flatten) : id ∈ served := by
  by_contra missing
  obtain ⟨unknown, refused⟩ := verdict.unknown_of_not_mem asked missing
  cases accepted.symm.trans refused

end IsVerdict

structure ServeEachOnce (config : AgentConfig) (gpus : List Device.Gpu) (instances : List Device.MigInstance)
    (managers : List Resource) (advertised : Resource → List DeviceId)
    (answer : Resource → AllocateRequest → Except AllocationError AllocateResponse) : Prop where
  found : ∀ world : World, world.Shows gpus instances →
    world.run (resources config) = (.ok managers, world)
  advertises : ∀ manager ∈ managers, ∀ world : World, world.Shows gpus instances →
    world.run (manager.deviceIds config) = (.ok (advertised manager), world)
  -- Every device is advertised as often as it is there.
  once : ((managers.flatMap advertised).map (·.id)).Perm (handedOut gpus instances)
  -- A call is answered by what the resource advertises, and changes nothing.
  verdict : ∀ manager ∈ managers, ∀ request,
    IsVerdict manager.name ((advertised manager).map (·.id)) request (answer manager request)
  answers : ∀ manager ∈ managers, ∀ request : AllocateRequest, request.containers.length ≤ 1 →
    ∀ (remembered : Option Mig.Partition) (world : World), world.Shows gpus instances →
      (allocate config remembered manager request).run World.serve world =
        ((answer manager request, remembered), world)
  -- A call looks at the devices at most.
  looks : ∀ manager ∈ managers, ∀ remembered request,
    (allocate config remembered manager request).Asks Request.IsLook
  -- If the IDs are distinct, what one resource accepts the others refuse.
  excludes : (handedOut gpus instances).Nodup →
    ∀ (i j : Nat) (first second : Resource), i ≠ j → managers[i]? = some first →
      managers[j]? = some second → ∀ (id : String) (one other : AllocateRequest) (response : AllocateResponse),
        id ∈ one.containers.flatten → id ∈ other.containers.flatten → answer first one = .ok response →
          ∃ unknown, answer second other = .error (.unknownDevice unknown second.name)

/-- Under the mixed strategy every device is served by exactly one resource. -/
theorem mixed_serves_each_once (mixed : config.strategy = .mixed) :
    ∃ managers advertised answer, ServeEachOnce config gpus instances managers advertised answer := by
  refine ⟨(mixedKinds instances).map (·.resource config), fun manager => mixedIds gpus instances manager.kind,
    fun manager request =>
      (checkServed manager (mixedIds gpus instances manager.kind) request.containers).map
        fun _ => ⟨request.containers.map visibleDevices⟩, ?_⟩
  have once : ((((mixedKinds instances).map (·.resource config)).flatMap fun manager =>
      mixedIds gpus instances manager.kind).map (·.id)).Perm (handedOut gpus instances) := by
    rw [List.flatMap_map]
    exact mixedIds_perm
  constructor
  case found => exact fun world shows => resources_run mixed shows
  case advertises =>
    exact List.forall_mem_map.2 fun kind among world shows => deviceIds_run mixed shows among
  case once => exact once
  case verdict => exact fun manager _ request => isVerdict_checkServed manager _ request
  case answers =>
    exact List.forall_mem_map.2 fun kind among request single remembered world shows =>
      allocate_run_mixed mixed shows among single remembered
  case looks =>
    exact List.forall_mem_map.2 fun kind _ remembered request =>
      allocate_asks_mixed (kind.resource config) mixed remembered request
  case excludes =>
    intro distinct i j first second differ here there id one other response asked also accepted
    have apart := once.nodup_iff.2 distinct
    rw [List.map_flatMap] at apart
    have served := (isVerdict_checkServed first _ one).mem_of_ok accepted asked
    exact (isVerdict_checkServed second _ other).unknown_of_not_mem also
      (not_mem_of_nodup_flatMap apart differ here there served)

def mixedAgent : AgentConfig where
  node := "node-a"
  countName := "gpus"
  memoryName := ""
  coreName := ""
  priorityName := ""
  splitCount := 10
  memoryScaling := 1
  memoryFactor := 1
  mode := .mig
  strategy := .mixed
  geometries := []
  filter := {}
  paths := {}

def mixedWorld : World where
  inventory := {
    gpus := [⟨0, "GPU-0", "A100", 40960, false, true⟩, ⟨1, "GPU-1", "A100", 40960, true, true⟩]
    instances := [⟨1, "GPU-1", 0, "MIG-0", "3g.20gb"⟩, ⟨1, "GPU-1", 1, "MIG-1", "1g.5gb"⟩,
      ⟨1, "GPU-1", 2, "MIG-2", "3g.20gb"⟩] }

def wholeDevices : Resource := ⟨"gpus", .count, .mixed⟩

def largeInstances : Resource := ⟨"nvidia.com/mig-3g.20gb", .instances "3g.20gb", .mixed⟩

-- The large instances are handed out by one resource; the device that has instances is not handed out.
theorem mixed_serves_each_once_two_profiles : ∃ managers advertised answer,
    ServeEachOnce mixedAgent mixedWorld.inventory.gpus mixedWorld.inventory.instances managers advertised
      answer ∧
    managers = [wholeDevices, ⟨"nvidia.com/mig-1g.5gb", .instances "1g.5gb", .mixed⟩, largeInstances] ∧
    (∃ response, answer largeInstances ⟨[["MIG-2", "MIG-0"]]⟩ = .ok ⟨[response]⟩ ∧
      response.environment.get? "NVIDIA_VISIBLE_DEVICES" = some "MIG-2,MIG-0" ∧ response.mounts = []) ∧
    answer wholeDevices ⟨[["GPU-0", "GPU-1"]]⟩ = .error (.unknownDevice "GPU-1" "gpus") := by
  obtain ⟨managers, advertised, answer, serves⟩ :
      ∃ managers advertised answer, ServeEachOnce mixedAgent mixedWorld.inventory.gpus
        mixedWorld.inventory.instances managers advertised answer := mixed_serves_each_once rfl
  have shows : mixedWorld.Shows mixedWorld.inventory.gpus mixedWorld.inventory.instances := ⟨rfl, rfl⟩
  have run : (mixedWorld.run (resources mixedAgent)).1 =
      .ok [wholeDevices, ⟨"nvidia.com/mig-1g.5gb", .instances "1g.5gb", .mixed⟩, largeInstances] := by
    decide +kernel
  rw [serves.found mixedWorld shows] at run
  obtain rfl := Except.ok.inj run
  have whole := congrArg Prod.fst (serves.advertises wholeDevices (by simp) mixedWorld shows)
  have large := congrArg Prod.fst (serves.advertises largeInstances (by simp) mixedWorld shows)
  have whole : [⟨"GPU-0", true⟩] = advertised wholeDevices := Except.ok.inj whole
  have large : [⟨"MIG-0", true⟩, ⟨"MIG-2", true⟩] = advertised largeInstances := Except.ok.inj large
  refine ⟨_, advertised, answer, serves, rfl, ?_, ?_⟩
  · have served : ∀ id ∈ ["MIG-2", "MIG-0"], id ∈ (advertised largeInstances).map (·.id) := by
      rw [← large]
      decide
    obtain ⟨⟨responses⟩, accepted, shown⟩ :=
      (serves.verdict largeInstances (by simp) ⟨[["MIG-2", "MIG-0"]]⟩).accepts served
    cases shown with | cons first rest =>
    cases rest
    have ids : ",".intercalate ["MIG-2", "MIG-0"] = "MIG-2,MIG-0" := by decide
    exact ⟨_, accepted, (first.environment _ _).2 ⟨rfl, ids.symm⟩, first.mounts⟩
  · refine (serves.verdict wholeDevices (by simp) _).refuses ["GPU-0"] "GPU-1" [] rfl ?_ ?_
    · rw [← whole]
      decide
    · rw [← whole]
      decide

end Calls

end Agent

end GpuShare
