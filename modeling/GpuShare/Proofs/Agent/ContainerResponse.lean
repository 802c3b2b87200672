import GpuShare.Agent.Allocation
import GpuShare.Agent.World
import GpuShare.Proofs.Execution
import GpuShare.Proofs.Dictionary
import Mathlib.Data.List.Nodup

/-!
What a container gets for a request. Its environment has one variable for each limit, and no two of them have
one name. The memory that a grant allows is never too large for the 64 bits it is computed in.
-/

set_option autoImplicit false

namespace GpuShare.Agent

open Cluster Wire Text

/-! ## Limits -/

-- A quota is within 2^31 and a unit below 2^32, so the product is within 2^63.
theorem toInt_memoryLimit (factor : UInt32) (grant : Grant) :
    (memoryLimit factor grant).toInt = grant.memory.toInt * factor.toNat := by
  have small := factor.toNat_lt
  have unit : (Int64.ofNat factor.toNat).toInt = factor.toNat := Int64.toInt_ofNat_of_lt (by omega)
  have low : -2 ^ 31 * (factor.toNat : Int) ≤ grant.memory.toInt * factor.toNat :=
    Int.mul_le_mul_of_nonneg_right (Int32.le_toInt grant.memory) (by omega)
  have high : grant.memory.toInt * (factor.toNat : Int) ≤ 2 ^ 31 * factor.toNat :=
    Int.mul_le_mul_of_nonneg_right (Int.le_of_lt (Int32.toInt_lt grant.memory)) (by omega)
  rw [memoryLimit, Int64.toInt_mul, Int32.toInt_toInt64, unit]
  exact Int.bmod_eq_of_le (by omega) (by omega)

def limitPrefix : List Char := "CUDA_DEVICE_MEMORY_LIMIT_".toList

theorem toList_memoryLimitName (position : Nat) :
    (memoryLimitName position).toList = limitPrefix ++ digits position := by
  unfold memoryLimitName limitPrefix
  rewrite [String.toList_append]
  apply congrArg
  exact String.toList_ofList

theorem memoryLimitName_injective : Function.Injective memoryLimitName := by
  intro first second same
  have texts := congrArg String.toList same
  rw [toList_memoryLimitName, toList_memoryLimitName] at texts
  have read := congrArg readNat? (List.append_cancel_left texts)
  rwa [readNat?_digits, readNat?_digits, Option.some.injEq] at read

theorem memoryLimitName_ne {name : String} (other : ¬ limitPrefix <+: name.toList) (position : Nat) :
    memoryLimitName position ≠ name := by
  intro same
  apply other
  rw [← same, toList_memoryLimitName]
  exact List.prefix_append ..

variable {config : AgentConfig} {container : Container} {request : List Grant} {resolved : List String}
  {id name value : String}

theorem names_memoryLimits (factor : UInt32) (start : Nat) (request : List Grant) :
    (memoryLimits factor start request).map (·.1) =
      (List.range' start request.length).map memoryLimitName := by
  induction request generalizing start with
  | nil => rfl
  | cons grant request ih => simp [memoryLimits, ih, List.range'_succ]

theorem mem_memoryLimits {factor : UInt32} {start : Nat} :
    (name, value) ∈ memoryLimits factor start request ↔ ∃ position grant,
      request[position]? = some grant ∧ name = memoryLimitName (start + position) ∧
      value = signedDecimal (grant.memory.toInt * factor.toNat) ++ "m" := by
  induction request generalizing start with
  | nil => simp [memoryLimits]
  | cons grant request ih =>
    rw [memoryLimits, List.mem_cons, ih, toInt_memoryLimit, Prod.mk.injEq]
    constructor
    · rintro (⟨rfl, rfl⟩ | ⟨position, other, held, rfl, rfl⟩)
      · exact ⟨0, grant, rfl, rfl, rfl⟩
      · exact ⟨position + 1, other, held, by rw [Nat.add_right_comm]; rfl, rfl⟩
    · rintro ⟨position, other, held, rfl, rfl⟩
      cases position with
      | zero =>
        cases held
        exact .inl ⟨rfl, rfl⟩
      | succ position => exact .inr ⟨position, other, held, by rw [Nat.add_right_comm]; rfl, rfl⟩

/-! ## The environment -/

inductive IsVariable (config : AgentConfig) (container : Container) (request : List Grant)
    (resolved : List String) (id : String) : String → String → Prop where
  | visibleDevices :
      IsVariable config container request resolved id "NVIDIA_VISIBLE_DEVICES" (",".intercalate resolved)
  -- Each grant has a limit of its own, whatever another one says.
  | memoryLimit {position : Nat} {grant : Grant} : request[position]? = some grant →
      IsVariable config container request resolved id ("CUDA_DEVICE_MEMORY_LIMIT_" ++ decimal position)
        (signedDecimal (grant.memory.toInt * config.memoryFactor.toNat) ++ "m")
  | coreLimit {grant : Grant} : request.head? = some grant →
      IsVariable config container request resolved id "CUDA_DEVICE_SM_LIMIT" (signedDecimal grant.cores.toInt)
  | sharedCache : IsVariable config container request resolved id "CUDA_DEVICE_MEMORY_SHARED_CACHE"
      ("/tmp/vgpu/" ++ id ++ ".cache")
  | taskPriority {priority : String} : container.limits.get? config.priorityName = some priority →
      IsVariable config container request resolved id "CUDA_TASK_PRIORITY" priority

def otherVariables (config : AgentConfig) (container : Container) (request : List Grant)
    (resolved : List String) (id : String) : List (String × String) :=
  (visibleDevicesName, ",".intercalate resolved) ::
    (coreLimit request ++ (sharedCacheName, Agent.sharedCache id) :: taskPriority config container)

def otherNames : List String := [visibleDevicesName, coreLimitName, sharedCacheName, taskPriorityName]

theorem otherNames_distinct : otherNames.Nodup := by decide

theorem memoryLimitName_ne_other : ∀ name ∈ otherNames, ¬ limitPrefix <+: name.toList := by decide

theorem names_otherVariables :
    ((otherVariables config container request resolved id).map (·.1)).Sublist otherNames := by
  have core : ((coreLimit request).map (·.1)).Sublist [coreLimitName] := by
    cases request with
    | nil => simp [coreLimit]
    | cons grant request => simp [coreLimit]
  have priority : ((taskPriority config container).map (·.1)).Sublist [taskPriorityName] := by
    rw [taskPriority]
    split
    · simp
    · simp
  rw [otherVariables, List.map_cons, List.map_append, List.map_cons]
  exact (core.append (priority.cons_cons sharedCacheName)).cons_cons visibleDevicesName

theorem names_distinct : ((memoryLimits config.memoryFactor 0 request ++
    otherVariables config container request resolved id).map (·.1)).Nodup := by
  rw [List.map_append, List.nodup_append, names_memoryLimits]
  refine ⟨List.Nodup.map memoryLimitName_injective List.nodup_range',
    otherNames_distinct.sublist names_otherVariables, fun name limit other found same => ?_⟩
  obtain ⟨position, -, rfl⟩ := List.mem_map.1 limit
  exact memoryLimitName_ne (memoryLimitName_ne_other _ (names_otherVariables.subset found)) position same

theorem mem_otherVariables : (name, value) ∈ otherVariables config container request resolved id ↔
    (name = visibleDevicesName ∧ value = ",".intercalate resolved) ∨
    (∃ grant, request.head? = some grant ∧ name = coreLimitName ∧ value = signedDecimal grant.cores.toInt) ∨
    (name = sharedCacheName ∧ value = Agent.sharedCache id) ∨
    (name = taskPriorityName ∧ container.limits.get? config.priorityName = some value) := by
  have core : (name, value) ∈ coreLimit request ↔ ∃ grant, request.head? = some grant ∧
      name = coreLimitName ∧ value = signedDecimal grant.cores.toInt := by
    cases request with
    | nil => simp [coreLimit]
    | cons grant request => simp [coreLimit]
  have priority : (name, value) ∈ taskPriority config container ↔
      name = taskPriorityName ∧ container.limits.get? config.priorityName = some value := by
    rw [taskPriority]
    cases container.limits.get? config.priorityName with
    | none => simp
    | some priority => simp [eq_comm]
  rw [otherVariables, List.mem_cons, List.mem_append, List.mem_cons, core, priority, Prod.mk.injEq, Prod.mk.injEq]

theorem shareEnvironment_eq : ∃ entries,
    shareEnvironment config container request resolved id = .ofList entries ∧
      entries.Perm (memoryLimits config.memoryFactor 0 request ++
        otherVariables config container request resolved id) := by
  refine ⟨_, rfl, ?_⟩
  rw [otherVariables, List.cons_append, List.cons_append, List.append_assoc]
  exact List.perm_middle.symm

theorem sharedCache_eq (id : String) : sharedCache id = "/tmp/vgpu/" ++ id ++ ".cache" := by
  have place : stateInContainer ++ "/" = "/tmp/vgpu/" := by decide
  rw [sharedCache, place]

/-- The environment has these variables and no others. -/
theorem get?_shareEnvironment_iff : (shareEnvironment config container request resolved id).get? name = some value ↔
    IsVariable config container request resolved id name value := by
  have listed : (shareEnvironment config container request resolved id).get? name = some value ↔
      (name, value) ∈ memoryLimits config.memoryFactor 0 request ++
        otherVariables config container request resolved id := by
    obtain ⟨entries, is, order⟩ := shareEnvironment_eq
    rw [is, Dictionary.get?_ofList ((order.map _).nodup_iff.2 names_distinct), order.mem_iff]
  rw [listed, List.mem_append, mem_memoryLimits, mem_otherVariables]
  constructor
  · rintro (⟨position, grant, held, rfl, rfl⟩ | ⟨rfl, rfl⟩ | ⟨grant, first, rfl, rfl⟩ | ⟨rfl, rfl⟩ | ⟨rfl, limited⟩)
    · rw [Nat.zero_add]
      exact .memoryLimit held
    · exact .visibleDevices
    · exact .coreLimit first
    · rw [sharedCache_eq]
      exact .sharedCache
    · exact .taskPriority limited
  · intro is
    cases is with
    | visibleDevices => exact .inr (.inl ⟨rfl, rfl⟩)
    | memoryLimit held => exact .inl ⟨_, _, held, by rw [Nat.zero_add]; rfl, rfl⟩
    | coreLimit first => exact .inr (.inr (.inl ⟨_, first, rfl, rfl⟩))
    | sharedCache => exact .inr (.inr (.inr (.inl ⟨rfl, (sharedCache_eq id).symm⟩)))
    | taskPriority limited => exact .inr (.inr (.inr (.inr ⟨rfl, limited⟩)))

/-! ## The response -/

variable {pod : Pod} {path : Path} {exchanges : List (Exchange interface)}
  {outcome : Except AllocationError ContainerResponse}

theorem prepareDirectory_ends {outcome : Except AllocationError Unit}
    (ends : (prepareDirectory path).run.Ends exchanges outcome) :
    (∃ error, ⟨.makeSharedDirectory path, .error error⟩ ∈ exchanges ∧ outcome = .error (.hostDirectory path.text)) ∨
      outcome = .ok () := by
  obtain ⟨answer, rest, rfl, ends⟩ := ends
  cases answer with
  | error error => exact .inl ⟨error, List.mem_cons_self, ends.2⟩
  | ok made => exact .inr ends.2

def sharedDirectories (config : AgentConfig) (pod : Pod) (container : Container) : List Path :=
  [stateDirectory config pod container, config.paths.lock]

-- The response is there, or a directory could not be made.
theorem containerResponse_ends (shares : config.mode = .hamiCore)
    (ends : (containerResponse config pod container request resolved).run.Ends exchanges outcome) :
    (∃ path ∈ sharedDirectories config pod container, ∃ error,
        ⟨.makeSharedDirectory path, .error error⟩ ∈ exchanges ∧ outcome = .error (.hostDirectory path.text)) ∨
      ∃ id, ⟨.freshId, id⟩ ∈ exchanges ∧ outcome =
        .ok ⟨shareEnvironment config container request resolved id, shareMounts config pod container⟩ := by
  unfold containerResponse at ends
  rw [shares] at ends
  obtain ⟨id, rest, rfl, ends⟩ := ends
  obtain ⟨e, failed, state⟩ | ⟨-, state, rest, rfl, -, ends⟩ := Attempt.ends_bind.1 ends
  · obtain ⟨error, asked, same⟩ | made := prepareDirectory_ends state
    · cases same
      exact .inl ⟨_, by simp [sharedDirectories], error, by simp [asked], failed⟩
    · cases made
  · obtain ⟨e, failed, lock⟩ | ⟨-, lock, rest, rfl, -, -, same⟩ := Attempt.ends_bind.1 ends
    · obtain ⟨error, asked, same⟩ | made := prepareDirectory_ends lock
      · cases same
        exact .inl ⟨_, by simp [sharedDirectories], error, by simp [asked], failed⟩
      · cases made
    · exact .inr ⟨id, List.mem_cons_self, same⟩

/-- What a container gets in whose place partitions limit: it sees its devices, and that is all. -/
structure OnlyShows (resolved : List String) (response : ContainerResponse) : Prop where
  environment : ∀ name value, response.environment.get? name = some value ↔
    name = "NVIDIA_VISIBLE_DEVICES" ∧ value = ",".intercalate resolved
  mounts : response.mounts = []

def libraryMounts (config : AgentConfig) (pod : Pod) (container : Container) : List Mount :=
  [⟨"/usr/local/vgpu/libvgpu.so", (config.paths.hook.join "libvgpu.so").text, true⟩,
    ⟨"/tmp/vgpu", (config.paths.containers.join (pod.metadata.uid.getD "" ++ "_" ++ container.name)).text, false⟩,
    ⟨"/tmp/vgpulock", config.paths.lock.text, false⟩]

/-- What a container gets that shares devices: its limits, the library that keeps them, and the file that
loads the library unless the container does without. -/
structure Limits (config : AgentConfig) (pod : Pod) (container : Container) (request : List Grant)
    (resolved : List String) (id : String) (response : ContainerResponse) : Prop where
  environment : ∀ name value, response.environment.get? name = some value ↔
    IsVariable config container request resolved id name value
  controlled : (∀ entry ∈ container.env, entry.name ≠ "CUDA_DISABLE_CONTROL") → response.mounts =
    libraryMounts config pod container ++
      [⟨"/etc/ld.so.preload", (config.paths.hook.join "ld.so.preload").text, true⟩]
  uncontrolled : ∀ entry ∈ container.env, entry.name = "CUDA_DISABLE_CONTROL" →
    response.mounts = libraryMounts config pod container

theorem onlyShows_visibleDevices (resolved : List String) : OnlyShows resolved (visibleDevices resolved) where
  environment name value := by
    rw [visibleDevices, visibleDevicesName, Dictionary.get?_insert, Dictionary.get?_empty]
    split
    · next here => simp [here, eq_comm]
    · next other => simp [other]
  mounts := rfl

theorem limits_shares (config : AgentConfig) (pod : Pod) (container : Container) (request : List Grant)
    (resolved : List String) (id : String) : Limits config pod container request resolved id
      ⟨shareEnvironment config container request resolved id, shareMounts config pod container⟩ where
  environment name value := get?_shareEnvironment_iff
  controlled none_disables := by
    have loads : isUncontrolled container = false := by
      simpa [isUncontrolled, disableControlName] using none_disables
    rw [shareMounts, loads]
    rfl
  uncontrolled entry listed disables := by
    have without : isUncontrolled container = true := by
      simpa [isUncontrolled, disableControlName] using ⟨entry, listed, disables⟩
    rw [shareMounts, without]
    rfl

/-- A container gets a response whenever its directories can be made, and the response says what the grants
allow and no more. -/
theorem containerResponse_grants {σ : Type}
    (serve : (request : Request) → σ → Answer request × σ) (state : σ)
    (made : config.mode = .hamiCore → ∀ path ∈ sharedDirectories config pod container, ∀ error,
      ⟨.makeSharedDirectory path, .error error⟩ ∉
        (containerResponse config pod container request resolved).run.trace serve state) :
    ∃ response, ((containerResponse config pod container request resolved).run.run serve state).1 = .ok response ∧
      (config.mode = .mig → OnlyShows resolved response) ∧
      (config.mode = .hamiCore → ∃ id,
        ⟨.freshId, id⟩ ∈ (containerResponse config pod container request resolved).run.trace serve state ∧
        Limits config pod container request resolved id response) := by
  cases mode : config.mode with
  | mig =>
    refine ⟨visibleDevices resolved, ?_, fun _ => onlyShows_visibleDevices resolved, nofun⟩
    rw [containerResponse, mode]
    rfl
  | hamiCore =>
    obtain ⟨path, among, error, failed, -⟩ | ⟨id, given, same⟩ :=
      containerResponse_ends mode (Program.ends_run serve _ state)
    · exact absurd failed (made mode path among error)
    · exact ⟨_, same, nofun, fun _ => ⟨id, given, limits_shares config pod container request resolved id⟩⟩

def largestUnit : AgentConfig where
  node := "node-a"
  countName := ""
  memoryName := ""
  coreName := ""
  priorityName := "priority"
  splitCount := 10
  memoryScaling := 1
  memoryFactor := 4294967295
  mode := .hamiCore
  strategy := .none
  geometries := []
  filter := {}
  paths := {}

def uncontrolledContainer : Container :=
  ⟨"main", [⟨disableControlName, some "true"⟩], Dictionary.empty.insert "priority" "1"⟩

def extremeGrants : List Grant := [⟨"GPU-0", nvidia, 2147483647, 30⟩, ⟨"GPU-1", nvidia, -2147483648, 40⟩]

def extremeResponse : Action AllocationError ContainerResponse :=
  containerResponse largestUnit default uncontrolledContainer extremeGrants ["GPU-0", "GPU-1"]

def failsToMake : Exchange interface → Bool
  | ⟨.makeSharedDirectory _, .error _⟩ => true
  | _ => false

theorem containerResponse_grants_extremes : ∃ response,
    (extremeResponse.run.run World.serve {}).1 = .ok response ∧
    response.environment.get? (memoryLimitName 0) = some "9223372030412324865m" ∧
    response.environment.get? (memoryLimitName 1) = some "-9223372034707292160m" ∧
    response.environment.get? taskPriorityName = some "1" ∧ response.mounts.length = 3 := by
  have made : (extremeResponse.run.trace World.serve {}).all (fun exchange => !failsToMake exchange) = true := by
    decide +kernel
  obtain ⟨response, ran, -, limits⟩ := containerResponse_grants World.serve {}
    fun _ path _ error failed => by simpa [failsToMake] using List.all_eq_true.1 made _ failed
  obtain ⟨id, -, limits⟩ := limits rfl
  have first : extremeGrants[0]? = some ⟨"GPU-0", nvidia, 2147483647, 30⟩ := rfl
  have second : extremeGrants[1]? = some ⟨"GPU-1", nvidia, -2147483648, 40⟩ := rfl
  have largest : signedDecimal ((2147483647 : Int32).toInt * largestUnit.memoryFactor.toNat) ++ "m" =
      "9223372030412324865m" := by decide +kernel
  have smallest : signedDecimal ((-2147483648 : Int32).toInt * largestUnit.memoryFactor.toNat) ++ "m" =
      "-9223372034707292160m" := by decide +kernel
  have high := (limits.environment _ _).2 (.memoryLimit first)
  have low := (limits.environment _ _).2 (.memoryLimit second)
  refine ⟨response, ran, high.trans (congrArg some largest), low.trans (congrArg some smallest), ?_, ?_⟩
  · exact (limits.environment _ _).2 (.taskPriority rfl)
  · rw [limits.uncontrolled _ List.mem_cons_self rfl]
    rfl

end GpuShare.Agent
