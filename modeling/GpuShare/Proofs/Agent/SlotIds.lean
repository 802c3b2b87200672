import Mathlib.Data.List.Nodup
import GpuShare.Agent.Catalog
import GpuShare.Proofs.Text.Split
import GpuShare.Proofs.Text.Numeral
import GpuShare.Proofs.Agent.Alone

/-!
The IDs of slots. An ID is the UUID of its device, a joint that ends with a dash, and a number. As no number has a
dash, the last dash tells the parts apart, whatever the UUIDs are. Main statement: where no instances are served, the
IDs that a resource advertises are distinct, and each is of one slot of one device.
-/

set_option autoImplicit false

namespace GpuShare.Agent

open Text

variable {config : AgentConfig} {world : World} {gpus : List Device.Gpu} {joint : String} {slots : Nat}

/-! ## The parts of an ID -/

section Parts

variable {uuid other numeral second : String} {slot place : Nat}

/-- What stands between a UUID and a number ends with a dash. -/
def IsJoint (joint : String) : Prop := joint.toList.getLast? = some '-'

instance (joint : String) : Decidable (IsJoint joint) := inferInstanceAs (Decidable (_ = _))

/-- An ID is of a slot of a device: the UUID of the device, the joint, and a numeral of the slot. -/
structure IsOfSlot (gpus : List Device.Gpu) (joint : String) (slots : Nat) (id uuid : String) (slot : Nat) :
    Prop where
  listed : uuid ∈ gpus.map (·.uuid)
  below : slot < slots
  written : ∃ numeral : String, IsNumeral numeral.toList slot ∧ id = uuid ++ joint ++ numeral

theorem isNumeral_decimal (n : Nat) : IsNumeral (decimal n).toList n := by
  rw [decimal, String.toList_ofList]
  exact isNumeral_digits n

-- The last dash of an ID is that of its joint.
theorem splitLast?_id (uuid : String) {front : List Char} (ends : joint.toList = front ++ ['-'])
    (is : IsNumeral numeral.toList slot) :
    splitLast? '-' (uuid ++ joint ++ numeral).toList = some (uuid.toList ++ front, numeral.toList) := by
  have shape : (uuid ++ joint ++ numeral).toList = (uuid.toList ++ front) ++ '-' :: numeral.toList := by
    simp [ends]
  rw [shape, splitLast?_append (is.not_mem (by decide))]

theorem parts_unique (isJoint : IsJoint joint) (is : IsNumeral numeral.toList slot)
    (also : IsNumeral second.toList place) (same : uuid ++ joint ++ numeral = other ++ joint ++ second) :
    uuid = other ∧ slot = place := by
  obtain ⟨front, ends⟩ := List.getLast?_eq_some_iff.1 isJoint
  have cut := splitLast?_id uuid ends is
  rw [same, splitLast?_id other ends also] at cut
  obtain ⟨fronts, numerals⟩ := Prod.mk.inj (Option.some.inj cut)
  rw [numerals] at also
  exact ⟨(String.toList_inj.1 (List.append_cancel_right fronts)).symm, is.value.symm.trans also.value⟩

theorem IsOfSlot.unique {id : String} (isJoint : IsJoint joint) (first : IsOfSlot gpus joint slots id uuid slot)
    (also : IsOfSlot gpus joint slots id other place) : uuid = other ∧ slot = place := by
  obtain ⟨-, -, numeral, is, rfl⟩ := first
  obtain ⟨-, -, second, isSecond, same⟩ := also
  exact parts_unique isJoint is isSecond same

end Parts

/-! ## The IDs of a resource -/

section Slots

theorem length_slotIds (gpus : List Device.Gpu) (joint : String) (slots : Nat) :
    (slotIds gpus joint slots).length = gpus.length * slots := by
  simp [slotIds, List.length_flatMap]

-- The slots of a device stand together, after those of all devices before it.
theorem getElem?_slotIds {position slot : Nat} {gpu : Device.Gpu} (held : gpus[position]? = some gpu)
    (below : slot < slots) : (slotIds gpus joint slots)[position * slots + slot]? =
      some ⟨gpu.uuid ++ joint ++ decimal slot, gpu.healthy⟩ := by
  induction gpus generalizing position with
  | nil => cases held
  | cons first rest ih =>
    rw [slotIds, List.flatMap_cons]
    cases position with
    | zero =>
      cases held
      rw [List.getElem?_append_left (by simpa using below)]
      simp [below]
    | succ position =>
      have later := ih held
      rw [slotIds] at later
      rw [List.getElem?_append_right (by simp [Nat.succ_mul]; omega), ← later]
      congr 1
      simp [Nat.succ_mul]
      omega

theorem mem_slotIds {id : DeviceId} : id ∈ slotIds gpus joint slots ↔
    ∃ gpu ∈ gpus, ∃ slot < slots, id = ⟨gpu.uuid ++ joint ++ decimal slot, gpu.healthy⟩ := by
  simp [slotIds, eq_comm]

theorem nodup_slotIds (isJoint : IsJoint joint) (distinct : (gpus.map (·.uuid)).Nodup) :
    ((slotIds gpus joint slots).map (·.id)).Nodup := by
  have parts {first second : Device.Gpu} {slot place : Nat}
      (same : first.uuid ++ joint ++ decimal slot = second.uuid ++ joint ++ decimal place) :
      first.uuid = second.uuid ∧ slot = place :=
    parts_unique isJoint (isNumeral_decimal slot) (isNumeral_decimal place) same
  rw [slotIds, List.map_flatMap, List.nodup_flatMap]
  constructor
  · intro gpu _
    rw [List.map_map]
    exact List.nodup_range.map fun slot place same => (parts same).2
  · refine (List.pairwise_map.1 distinct).imp fun {first second} differ => ?_
    apply List.disjoint_left.2
    intro id one two
    simp only [List.map_map, List.mem_map, Function.comp_apply] at one two
    obtain ⟨slot, -, rfl⟩ := one
    obtain ⟨place, -, same⟩ := two
    exact differ (parts same).1.symm

/-- How a resource advertises devices in slots: device by device in their order, and slot by slot, under distinct
IDs. An ID can be taken for that of one slot of one device only. -/
structure Identifies (gpus : List Device.Gpu) (joint : String) (slots : Nat) (ids : List DeviceId) : Prop where
  distinct : (ids.map (·.id)).Nodup
  count : ids.length = gpus.length * slots
  placed : ∀ position gpu slot, gpus[position]? = some gpu → slot < slots →
    ids[position * slots + slot]? = some ⟨gpu.uuid ++ joint ++ decimal slot, gpu.healthy⟩
  identified : ∀ id ∈ ids, ∃! named : String × Nat, IsOfSlot gpus joint slots id.id named.1 named.2

theorem identifies_slotIds (isJoint : IsJoint joint) (distinct : (gpus.map (·.uuid)).Nodup) :
    Identifies gpus joint slots (slotIds gpus joint slots) where
  distinct := nodup_slotIds isJoint distinct
  count := length_slotIds gpus joint slots
  placed _ _ _ held below := getElem?_slotIds held below
  identified id member := by
    obtain ⟨gpu, listed, slot, below, rfl⟩ := mem_slotIds.1 member
    have is : IsOfSlot gpus joint slots (gpu.uuid ++ joint ++ decimal slot) gpu.uuid slot :=
      ⟨List.mem_map_of_mem listed, below, decimal slot, isNumeral_decimal slot, rfl⟩
    refine ⟨(gpu.uuid, slot), is, fun named also => ?_⟩
    obtain ⟨device, place⟩ := is.unique isJoint also
    exact Prod.ext device.symm place.symm

end Slots

/-! ## Without a strategy for instances -/

section Served

structure Slotting where
  resource : Resource
  joint : String
  slots : Nat

def slottings (config : AgentConfig) : List Slotting :=
  [⟨⟨config.countName, .count, .none⟩, "-", config.splitCount.toNat⟩,
    ⟨⟨config.memoryName, .memory, .none⟩, "-memory-", 32767⟩,
    ⟨⟨config.coreName, .cores, .none⟩, "-core-", 100⟩]

variable {slotting : Slotting}

theorem isJoint_of_mem (served : slotting ∈ slottings config) : IsJoint slotting.joint := by
  simp only [slottings, List.mem_cons, List.not_mem_nil, or_false] at served
  rcases served with rfl | rfl | rfl
  · exact (by decide : IsJoint "-")
  · exact (by decide : IsJoint "-memory-")
  · exact (by decide : IsJoint "-core-")

theorem run_resources_slottings (whole : config.strategy = .none) :
    world.run (resources config) = (.ok ((slottings config).map (·.resource)), world) := by
  unfold resources
  rw [whole]
  simp only [List.map, ResourceKind.resource, ResourceKind.nameIn, whole]
  rfl

theorem run_deviceIds_slotting (served : slotting ∈ slottings config)
    (listed : world.inventory.listGpus = .ok gpus) :
    world.run (slotting.resource.deviceIds config) =
      (.ok (slotIds gpus slotting.joint slotting.slots), world) := by
  unfold Resource.deviceIds
  rw [World.run_ask_bind]
  refine (World.run_orFail_bind world _ listed _).trans ?_
  simp only [slottings, List.mem_cons, List.not_mem_nil, or_false] at served
  rcases served with rfl | rfl | rfl
  · rfl
  · rfl
  · rfl

/-- Where no instances are served, the slots of every device are, in shares, in memory and in cores; and the IDs of
each of the three resources identify the slots, whatever the UUIDs look like as long as they are distinct. -/
theorem slot_ids_identify_devices (whole : config.strategy = .none)
    (listed : world.inventory.listGpus = .ok gpus) (distinct : (gpus.map (·.uuid)).Nodup) :
    world.run (resources config) = (.ok ((slottings config).map (·.resource)), world) ∧
    ∀ slotting ∈ slottings config, ∃ ids,
      world.run (slotting.resource.deviceIds config) = (.ok ids, world) ∧
      Identifies gpus slotting.joint slotting.slots ids :=
  ⟨run_resources_slottings whole, fun _ served =>
    ⟨_, run_deviceIds_slotting served listed, identifies_slotIds (isJoint_of_mem served) distinct⟩⟩

def twoShares : AgentConfig where
  node := "node-a"
  countName := "shares"
  memoryName := "memory"
  coreName := "cores"
  priorityName := ""
  splitCount := 2
  memoryScaling := 1
  memoryFactor := 1
  mode := .hamiCore
  strategy := .none
  geometries := []
  filter := {}
  paths := {}

/-- Devices with UUIDs that look like IDs of slots of the first one. -/
def alikeWorld : World where
  inventory := {
    gpus := [⟨0, "GPU-0", "A30", 24576, false, true⟩, ⟨1, "GPU-0-1", "A30", 24576, false, true⟩,
      ⟨2, "GPU-0-memory", "A30", 24576, false, false⟩] }

-- One ID may be of a share of one device and of memory of another, but in each resource it is of one device.
theorem slot_ids_identify_devices_alike : ∃ shares memory : List DeviceId,
    alikeWorld.run (Resource.deviceIds twoShares ⟨"shares", .count, .none⟩) = (.ok shares, alikeWorld) ∧
    alikeWorld.run (Resource.deviceIds twoShares ⟨"memory", .memory, .none⟩) = (.ok memory, alikeWorld) ∧
    shares.length = 6 ∧ (shares.map (·.id)).Nodup ∧ shares[4]? = some ⟨"GPU-0-memory-0", false⟩ ∧
    memory.length = 98301 ∧ (memory.map (·.id)).Nodup ∧ memory[0]? = some ⟨"GPU-0-memory-0", true⟩ := by
  have whole : twoShares.strategy = .none := rfl
  have listed : alikeWorld.inventory.listGpus = .ok alikeWorld.inventory.gpus := rfl
  have distinct : (alikeWorld.inventory.gpus.map (·.uuid)).Nodup := by decide
  obtain ⟨-, serves⟩ := slot_ids_identify_devices whole listed distinct
  obtain ⟨shares, sharesRun, ofShares⟩ :=
    serves ⟨⟨"shares", .count, .none⟩, "-", 2⟩ (by simp [slottings, twoShares])
  obtain ⟨memory, memoryRun, ofMemory⟩ :=
    serves ⟨⟨"memory", .memory, .none⟩, "-memory-", 32767⟩ (by simp [slottings, twoShares])
  refine ⟨shares, memory, sharesRun, memoryRun, ofShares.count, ofShares.distinct, ?_, ofMemory.count,
    ofMemory.distinct, ?_⟩
  · exact (ofShares.placed 2 _ 0 rfl (by decide)).trans (by decide +kernel)
  · exact (ofMemory.placed 0 _ 0 rfl (by decide)).trans (by decide +kernel)

end Served

end GpuShare.Agent
