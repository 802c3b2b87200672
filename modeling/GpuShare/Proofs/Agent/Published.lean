import GpuShare.Agent.Registration
import GpuShare.Proofs.Agent.LockAlone
import GpuShare.Proofs.Agent.Unreliable
import GpuShare.Proofs.Wire.Adverts

/-!
What a node publishes when it is registered. The annotation is read back as the list of the devices that may be
shared, and every other annotation, the lock of the node among them, stays as it is.
-/

set_option autoImplicit false

namespace GpuShare.Agent.Registration

open Cluster Wire Device

variable {config : AgentConfig} {world after : World} {gpus : List Gpu} {gpu : Gpu}

/-! ## The devices of a node -/

theorem toInt_capped (n : Nat) : (capped n).toInt = (min n 2147483647 : Nat) := by
  rw [capped, maxCount]
  exact Int32.toInt_ofNat_of_lt (by omega)

def IsShared (config : AgentConfig) (gpu : Gpu) : Prop :=
  gpu.uuid ∉ config.filter.uuids ∧ gpu.index ∉ config.filter.indices

instance (config : AgentConfig) : DecidablePred (IsShared config) :=
  fun _ => inferInstanceAs (Decidable (_ ∧ _))

/-- A device as its node advertises it: a number that is too large is the largest one, and a unit of zero
counts as one. The memory is scaled only where no instances are offered. -/
structure Advertises (config : AgentConfig) (gpu : Gpu) (advert : Advert) : Prop where
  id : advert.id = gpu.uuid
  count : advert.count.toInt = (min config.splitCount.toNat 2147483647 : Nat)
  memory : config.strategy ≠ .none → advert.memory.toInt =
    (min (gpu.memoryMib.toNat / max config.memoryFactor.toNat 1) 2147483647 : Nat)
  deviceType : advert.deviceType = "NVIDIA-" ++ gpu.model
  healthy : advert.healthy = gpu.healthy
  mode : advert.mode = config.mode.text

theorem advertises_advert (config : AgentConfig) (gpu : Gpu) : Advertises config gpu (advert config gpu) where
  id := rfl
  count := toInt_capped _
  memory unscaled := by
    rw [advert, toInt_capped, scaledMemory, if_neg unscaled]
  deviceType := rfl
  healthy := rfl
  mode := rfl

theorem advertises_adverts (config : AgentConfig) (gpus : List Gpu) :
    List.Forall₂ (Advertises config) (gpus.filter (IsShared config)) (adverts config gpus) := by
  have same : (gpus.filter fun gpu => !config.filter.excludes gpu.uuid gpu.index) =
      gpus.filter (IsShared config) := by
    refine List.filter_congr fun gpu _ => ?_
    rw [Bool.eq_iff_iff, decide_eq_true_iff]
    simp [DeviceFilter.excludes, IsShared]
  rw [adverts, same, List.forall₂_map_right_iff, List.forall₂_same]
  exact fun gpu _ => advertises_advert config gpu

def IsPlain (gpu : Gpu) : Prop := Wire.IsField gpu.uuid ∧ Wire.IsField gpu.model

theorem isField_append {front back : String} (first : Wire.IsField front) (second : Wire.IsField back) :
    Wire.IsField (front ++ back) := by
  simp only [Wire.IsField, String.toList_append, List.mem_append, not_or]
  exact ⟨⟨first.1, second.1⟩, first.2, second.2⟩

theorem hasFields_advert (config : AgentConfig) (plain : IsPlain gpu) : (advert config gpu).HasFields where
  id := plain.1
  deviceType := isField_append (by decide) plain.2
  mode := by
    show Wire.IsField config.mode.text
    cases config.mode with
    | hamiCore => decide
    | mig => decide

theorem decodeAll_adverts (config : AgentConfig) (plain : ∀ gpu ∈ gpus, IsPlain gpu) :
    Advert.decodeAll (Advert.encodeAll (adverts config gpus)) = .ok (adverts config gpus) := by
  apply Advert.decodeAll_encodeAll
  intro advert listed
  obtain ⟨gpu, shared, rfl⟩ := List.mem_map.1 listed
  exact hasFields_advert config (plain gpu (List.mem_filter.1 shared).1)

/-! ## The annotations of the nodes -/

theorem get?_annotations (adverts : List Advert) (now : Time.Instant) (key : String) :
    (annotations adverts now).get? key =
      if key = nodeRegister then some (some (Advert.encodeAll adverts))
      else if key = nodeHandshake then some (some (handshake now)) else none := by
  rw [annotations, Dictionary.get?_insert, Patch.get?_one]

-- The key of a lock ends like no other key on a node.
theorem keyOf_ne {key : String} (other : key.toList.getLast? ≠ some 'k') (domain : String) :
    NodeLock.keyOf domain ≠ key := by
  intro same
  have last : "-mutex.lock".toList.getLast? = some 'k' := by decide
  apply other
  rewrite [← same, NodeLock.keyOf, String.toList_append, List.getLast?_append, last]
  exact Option.some_or

/-- The write that a registration ends with, and the world after it. -/
def publish (config : AgentConfig) (gpus : List Gpu) (world : World) : Except ClusterError Node × World :=
  World.serve (.cluster (.patchNode config.node (annotations (adverts config gpus) world.clock) none))
    (World.serve .now world).2

-- Whatever is made to fail, the write does all that it says or nothing.
theorem publish_cases (config : AgentConfig) (gpus : List Gpu) (world : World) :
    (∃ cause, (publish config gpus world).1 = .error cause) ∧
        (publish config gpus world).2.view.nodes = world.view.nodes ∨
      ∃ node version, world.view.nodes.get? config.node = some node ∧
        (publish config gpus world).1 = .ok ⟨node.metadata.patched
          (annotations (adverts config gpus) world.clock) version⟩ ∧
        (publish config gpus world).2.view.nodes = world.view.nodes.insert config.node
          ⟨node.metadata.patched (annotations (adverts config gpus) world.clock) version⟩ :=
  Unreliable.patchNode_cases (Unreliable.replies_serve _ (World.serve .now world).2)

inductive Ends (config : AgentConfig) (world : World) : Except RegisterError (List Advert) × World → Prop where
  | unlisted (cause : InventoryError) : world.inventory.gpusFailure = some cause →
      Ends config world (.error (.inventory cause), world)
  | refused (cause : ClusterError) (after : World) : after.view.nodes = world.view.nodes →
      Ends config world (.error (.nodeUpdate config.node cause), after)
  | published (node : Node) (version : String) (after : World) :
      world.inventory.gpusFailure = none → world.view.nodes.get? config.node = some node →
      after.view.nodes = world.view.nodes.insert config.node ⟨node.metadata.patched
        (annotations (adverts config world.inventory.gpus) world.clock) version⟩ →
      Ends config world (.ok (adverts config world.inventory.gpus), after)

-- Up to the write nothing can fail but the list of the devices.
theorem run_register (listed : world.inventory.gpusFailure = none) : world.run (register config) =
    (World.serve .now world).2.run (callOr (.nodeUpdate config.node) (.patchNode config.node
      (annotations (adverts config world.inventory.gpus) world.clock) none) >>= fun _ =>
        pure (adverts config world.inventory.gpus)) := by
  have given : world.inventory.listGpus = .ok world.inventory.gpus := by rw [Inventory.listGpus, listed]
  rw [register, World.run_ask_bind]
  show world.run (orFail _ world.inventory.listGpus >>= _) = _
  rw [World.run_orFail_bind _ _ given]
  rfl

theorem ends_register (config : AgentConfig) (world : World) :
    Ends config world (world.run (register config)) := by
  cases listed : world.inventory.gpusFailure with
  | some cause =>
    have refused : world.inventory.listGpus = .error cause := by rw [Inventory.listGpus, listed]
    have ran : world.run (register config) = (.error (.inventory cause), world) := by
      rw [register, World.run_ask_bind]
      show world.run (orFail _ world.inventory.listGpus >>= _) = _
      rw [refused]
      rfl
    rw [ran]
    exact .unlisted cause listed
  | none =>
    rw [run_register listed]
    obtain ⟨⟨cause, failed⟩, kept⟩ | ⟨node, version, found, passed, written⟩ :=
      publish_cases config world.inventory.gpus world
    · rw [World.run_bind_error (World.run_callOr_error (Prod.ext failed rfl) _)]
      exact .refused cause _ kept
    · rw [World.run_bind_ok (World.run_callOr (Prod.ext passed rfl) _)]
      exact .published node version _ listed found written

/-- An annotation that no registration of a node is about. -/
def IsForeign (config : AgentConfig) (name key : String) : Prop :=
  name ≠ config.node ∨ key ≠ nodeRegister ∧ key ≠ nodeHandshake

theorem isForeign_keyOf (config : AgentConfig) (name domain : String) :
    IsForeign config name (NodeLock.keyOf domain) :=
  .inr ⟨keyOf_ne (by decide) domain, keyOf_ne (by decide) domain⟩

theorem register_keeps {name key : String} (isForeign : IsForeign config name key) :
    (world.run (register config)).2.annotation? name key = world.annotation? name key := by
  have ends := ends_register config world
  generalize world.run (register config) = result at ends
  cases ends with
  | unlisted => rfl
  | refused cause after kept => rw [World.annotation?, World.annotation?, kept]
  | published node version after listed found written =>
    rw [World.annotation?_written found written]
    rcases isForeign with other | ⟨notRegister, notHandshake⟩
    · rw [if_neg other]
    · simp [get?_annotations, notRegister, notHandshake]

theorem round_keeps {name key : String} (isForeign : IsForeign config name key) :
    ((round config).run World.serve world).2.annotation? name key = world.annotation? name key := by
  -- The wait after a registration is no matter of the nodes.
  have shape : ((round config).run World.serve world).2 =
      (World.serve (.sleep (delayAfter (world.run (register config)).1))
        (world.run (register config)).2).2 := by
    rw [round, World.run_program_bind rfl]
    rfl
  rw [shape]
  exact register_keeps isForeign

/-- However often a node is registered, nothing else that is annotated on the nodes changes. -/
theorem run_keeps {name key : String} (isForeign : IsForeign config name key) (deadline : Nat) :
    (run config deadline world).annotation? name key = world.annotation? name key := by
  rw [run]
  generalize deadline / retryInterval + 1 = fuel
  induction fuel generalizing world with
  | zero => rfl
  | succ fuel ih =>
    rw [runUntil]
    split
    · exact ih.trans (round_keeps isForeign)
    · exact round_keeps isForeign

/-! ## The outcome -/

theorem publish_arrives {node : Node} (faults : world.connection.faults = [])
    (found : world.view.nodes.get? config.node = some node) :
    ∃ changed after, publish config gpus world = (.ok changed, after) := by
  have held : world.connection.store.nodes.get? config.node = some node := found
  have clear : (World.serve .now world).2.connection.faults = [] := faults
  rw [publish, World.serve_cluster clear, Store.serve]
  simp [Store.patchNode, World.serve, held, Store.guardHolds]

structure Publishes (config : AgentConfig) (adverts : List Advert) (world after : World) : Prop where
  -- One for each device that may be shared, in their order.
  advertised : List.Forall₂ (Advertises config) (world.inventory.gpus.filter (IsShared config)) adverts
  register : (after.annotation? config.node nodeRegister).map Advert.decodeAll = some (.ok adverts)
  handshake : after.annotation? config.node nodeHandshake = some (handshake world.clock)
  others : ∀ name key, IsForeign config name key → after.annotation? name key = world.annotation? name key
  locks : ∀ name domain, after.annotation? name (NodeLock.keyOf domain) =
    world.annotation? name (NodeLock.keyOf domain)

/-- A registration publishes the devices that may be shared, or changes no node. It can only fail where the
devices cannot be listed, the node is not there, or the call does not arrive. -/
theorem register_publishes (config : AgentConfig) (world : World)
    (plain : ∀ gpu ∈ world.inventory.gpus, IsPlain gpu) :
    (∀ adverts after, world.run (register config) = (.ok adverts, after) →
      Publishes config adverts world after) ∧
    (∀ error after, world.run (register config) = (.error error, after) →
      after.view.nodes = world.view.nodes) ∧
    ∀ node, world.inventory.gpusFailure = none → world.connection.faults = [] →
      world.view.nodes.get? config.node = some node →
      ∃ adverts after, world.run (register config) = (.ok adverts, after) := by
  refine ⟨fun adverts after ran => ?_, fun error after ran => ?_, fun node listed faults found => ?_⟩
  · have ends := ends_register config world
    have others (name key : String) (isForeign : IsForeign config name key) :
        after.annotation? name key = world.annotation? name key := by
      have kept : (world.run (register config)).2.annotation? name key = world.annotation? name key :=
        register_keeps isForeign
      rwa [ran] at kept
    rw [ran] at ends
    cases ends with
    | published node version after listed found written =>
      have values (key : String) := World.annotation?_written found written config.node key
      refine ⟨advertises_adverts config _, ?_, ?_, others, fun name domain =>
        others name _ (isForeign_keyOf config name domain)⟩
      · rw [values, if_pos rfl, get?_annotations, if_pos rfl]
        exact congrArg some (decodeAll_adverts config plain)
      · rw [values, if_pos rfl, get?_annotations, if_neg (by decide), if_pos rfl]
        rfl
  · have ends := ends_register config world
    rw [ran] at ends
    cases ends with
    | unlisted => rfl
    | refused cause after kept => exact kept
  · obtain ⟨changed, after, served⟩ := publish_arrives faults found
    rw [run_register listed]
    exact ⟨_, _, World.run_bind_ok (World.run_callOr served _) _⟩

def manyShares : AgentConfig where
  node := "node-a"
  countName := ""
  memoryName := ""
  coreName := ""
  priorityName := ""
  splitCount := 4294967295
  memoryScaling := 2
  memoryFactor := 1024
  mode := .hamiCore
  strategy := .mixed
  geometries := []
  filter := { indices := [1] }
  paths := {}

def lockedNode : Node where
  metadata := {
    ns := none, name := some "node-a", uid := none, resourceVersion := some "7"
    annotations := some (.ofList [(NodeLock.keyOf "vgpu", "held"), (nodeRegister, "stale")]) }

def lockedWorld : World where
  connection := { store := { nodes := .ofList [("node-a", lockedNode)] } }
  inventory := {
    gpus := [⟨0, "GPU-0", "A30", 24576, true, true⟩, ⟨1, "GPU-1", "A30", 24576, true, true⟩] }

theorem register_publishes_beside_lock : ∃ after,
    lockedWorld.run (register manyShares) =
      (.ok [⟨"GPU-0", 2147483647, 24, "NVIDIA-A30", true, "hami-core"⟩], after) ∧
    (after.annotation? "node-a" nodeRegister).map Advert.decodeAll =
      some (.ok [⟨"GPU-0", 2147483647, 24, "NVIDIA-A30", true, "hami-core"⟩]) ∧
    after.annotation? "node-a" (NodeLock.keyOf "vgpu") = some "held" := by
  have plain : ∀ gpu ∈ lockedWorld.inventory.gpus, IsPlain gpu := by
    simp only [lockedWorld, List.forall_mem_cons]
    exact ⟨⟨by decide, by decide⟩, ⟨by decide, by decide⟩, nofun⟩
  have listed : (lockedWorld.run (register manyShares)).1 =
      .ok [⟨"GPU-0", 2147483647, 24, "NVIDIA-A30", true, "hami-core"⟩] := by rfl
  have publishes := (register_publishes manyShares lockedWorld plain).1 _ _ (Prod.ext listed rfl)
  have locked : lockedWorld.annotation? "node-a" (NodeLock.keyOf "vgpu") = some "held" := by decide +kernel
  exact ⟨_, Prod.ext listed rfl, publishes.register, (publishes.locks "node-a" "vgpu").trans locked⟩

end GpuShare.Agent.Registration
