import Mathlib.Control.Monad.Basic
import GpuShare.Agent.World
import GpuShare.Proofs.Agent.Rejections
import GpuShare.Proofs.Mig.Separation

/-!
What resolving a reference leaves of the partition of its device. A device whose entry lacks an instance of
the geometry is given the geometry and nothing else. A device whose entry has them all keeps its entry, with
whatever else the entry says.
-/

set_option autoImplicit false

namespace GpuShare.Agent.MigResolver

open Mig Program Attempt

variable {exchanges : List (Exchange interface)} {allowed : List ModelGeometries}
  {remembered now : Option Partition} {partition changed : Partition} {index : UInt32}
  {geometry : Geometry} {reference : Reference} {device : Device.Gpu} {id : String}

section Readings

/-- A partition that was exported, with the devices that were counted next. -/
def reading? : Exchange interface → Exchange interface → Option Partition
  | ⟨.exportPartition, .ok exported⟩, ⟨.gpus, .ok gpus⟩ => some (exported.expand gpus.length)
  | _, _ => none

def readings : List (Exchange interface) → List Partition
  | first :: second :: rest => (reading? first second).toList ++ readings (second :: rest)
  | _ => []

theorem readings_cons (exchange : Exchange interface) (rest : List (Exchange interface)) :
    readings rest ⊆ readings (exchange :: rest) := by
  cases rest with
  | nil => exact List.nil_subset _
  | cons second rest => exact List.subset_append_right _ _

theorem readings_append_right (first rest : List (Exchange interface)) :
    readings rest ⊆ readings (first ++ rest) := by
  induction first with
  | nil => exact List.Subset.refl _
  | cons exchange first ih => exact List.Subset.trans ih (readings_cons exchange _)

theorem readings_append_left (first rest : List (Exchange interface)) :
    readings first ⊆ readings (first ++ rest) := by
  induction first with
  | nil => exact List.nil_subset _
  | cons exchange first ih =>
    cases first with
    | nil => exact List.nil_subset _
    | cons second first =>
      exact List.append_subset.2
        ⟨List.subset_append_left _ _, List.Subset.trans ih (List.subset_append_right _ _)⟩

end Readings

section Parts

variable {ε δ α β : Type}

theorem orFail_bind_ends {f : ε → δ} {outcome : Except ε α} {next : α → Action δ β} {b : β}
    (ends : (orFail f outcome >>= next).run.Ends exchanges (.ok b)) :
    ∃ a, outcome = .ok a ∧ (next a).run.Ends exchanges (.ok b) := by
  cases outcome with
  | error e => cases ends.2
  | ok a => exact ⟨a, rfl, ends⟩

def Picks (allowed : List ModelGeometries) (exchanges : List (Exchange interface))
    (reference : Reference) (device : Device.Gpu) (geometry : Geometry) : Prop :=
  ∃ gpus, ⟨.gpus, .ok gpus⟩ ∈ exchanges ∧ Device.findGpu gpus reference.deviceUuid = .ok device ∧
    findGeometry allowed device.model reference.group = .ok geometry

theorem lookUp_ends (ends : (lookUp allowed reference).run.Ends exchanges (.ok (device, geometry))) :
    Picks allowed exchanges reference device geometry := by
  obtain ⟨cause, -, failed⟩ | ⟨gpus, rfl, passed⟩ := looked_of_ends ends
  · cases failed
  · have admits := check_eq_ok_iff.1 passed
    exact ⟨gpus, List.mem_singleton_self _, findGpu_eq_ok_iff.2 admits.named,
      findGeometry_eq_ok_iff.2 admits.offered⟩

def Reads (remembered : Option Partition) (exchanges : List (Exchange interface))
    (partition : Partition) : Prop :=
  remembered = some partition ∨ remembered = none ∧ partition ∈ readings exchanges

theorem current_ends (ends : (current remembered index).run.Ends exchanges (.ok partition)) :
    Reads remembered exchanges partition := by
  cases remembered with
  | some held =>
    obtain ⟨-, same⟩ := ends
    cases same
    exact .inl rfl
  | none =>
    obtain ⟨answer, rest, rfl, reading⟩ := ends
    obtain ⟨exported, rfl, asking⟩ := orFail_bind_ends reading
    obtain ⟨answer, rest, rfl, counting⟩ := asking
    obtain ⟨gpus, rfl, expanding⟩ := orFail_bind_ends counting
    obtain ⟨rfl, same⟩ := expanding
    cases same
    exact .inr ⟨rfl, List.mem_singleton_self _⟩

inductive Fitted (partition : Partition) (index : UInt32) (geometry : Geometry) : Partition → Prop where
  | already {entries : List PartitionEntry} {position : Nat} {entry : PartitionEntry} :
      locate partition index = .ok (entries, position, entry) → entry.suits geometry = true →
      Fitted partition index geometry partition
  | changed {entries : List PartitionEntry} {position : Nat} {entry : PartitionEntry} :
      locate partition index = .ok (entries, position, entry) → entry.suits geometry = false →
      Fitted partition index geometry
        (partition.setCurrent (repartition entries position index geometry))

theorem Ensures.fitted (ensures : Ensures partition index geometry exchanges (.ok changed)) :
    Fitted partition index geometry changed := by
  cases ensures with
  | already located suits => exact .already located suits
  | applied located other => exact .changed located other

end Parts

section Resolving

variable {result : Except MigError String}

/-- How far a resolution comes: to no partition, to one that cannot be changed, or to one in which the device
has its geometry. -/
inductive Course (allowed : List ModelGeometries) (remembered : Option Partition)
    (exchanges : List (Exchange interface)) (id : String) :
    Except MigError String → Option Partition → Prop where
  | unread {e : MigError} : Course allowed remembered exchanges id (.error e) remembered
  | unchanged {e : MigError} {partition : Partition} : Reads remembered exchanges partition →
      Course allowed remembered exchanges id (.error e) (some partition)
  | fitted {result : Except MigError String} {reference : Reference} {device : Device.Gpu}
      {geometry : Geometry} {partition changed : Partition} : Reference.parse id = .ok reference →
      Picks allowed exchanges reference device geometry → Reads remembered exchanges partition →
      Fitted partition device.index geometry changed →
      Course allowed remembered exchanges id result (some changed)

theorem Picks.append (picks : Picks allowed exchanges reference device geometry)
    (more : List (Exchange interface)) : Picks allowed (exchanges ++ more) reference device geometry := by
  obtain ⟨gpus, member, named, suited⟩ := picks
  exact ⟨gpus, List.mem_append_left _ member, named, suited⟩

theorem Reads.among (reads : Reads remembered exchanges partition)
    (before after : List (Exchange interface)) :
    Reads remembered (before ++ (exchanges ++ after)) partition := by
  obtain held | ⟨nothing, member⟩ := reads
  · exact .inl held
  · exact .inr ⟨nothing, readings_append_right _ _ (readings_append_left _ _ member)⟩

theorem Reads.cons (reads : Reads remembered exchanges partition) (exchange : Exchange interface) :
    Reads remembered (exchange :: exchanges) partition :=
  reads.imp_right fun ⟨nothing, member⟩ => ⟨nothing, readings_cons exchange exchanges member⟩

theorem resolve_ends (encoded : Reference.isEncoded id = true)
    (ends : (resolve allowed remembered id).Ends exchanges (result, now)) :
    Course allowed remembered exchanges id result now := by
  cases stage_of_ends ends with
  | plain unencoded => cases encoded.symm.trans unencoded
  | flawed => exact .unread
  | unknown => exact .unread
  | untold => exact .unread
  | unchanged _ _ tells _ => exact .unchanged ((current_ends tells).among _ _)
  | fitted parsed looks tells ensures _ =>
    exact .fitted parsed ((lookUp_ends looks).append _) ((current_ends tells).among _ _) ensures.fitted

theorem Fitted.isSeparate (fitted : Fitted partition index geometry changed)
    (separate : partition.IsSeparate) : changed.IsSeparate := by
  cases fitted with
  | already located suits => exact separate
  | changed located other =>
    obtain ⟨inForce, held, covers⟩ := locate_eq_ok located
    intro entries current
    rw [Partition.current?_setCurrent] at current
    cases current
    exact (separate _ inForce).repartition held covers geometry

/-- What a resolver remembers after some calls whose exported partitions have no device twice. -/
inductive CanHold (allowed : List ModelGeometries) : Option Partition → Prop where
  | nothing : CanHold allowed none
  | resolved {remembered now : Option Partition} {id : String} {exchanges : List (Exchange interface)}
      {result : Except MigError String} : CanHold allowed remembered →
      (resolve allowed remembered id).Ends exchanges (result, now) →
      (∀ partition ∈ readings exchanges, partition.IsSeparate) → CanHold allowed now

theorem Reads.isSeparate (reads : Reads remembered exchanges partition)
    (kept : ∀ partition, remembered = some partition → partition.IsSeparate)
    (exported : ∀ partition ∈ readings exchanges, partition.IsSeparate) : partition.IsSeparate := by
  obtain held | ⟨-, member⟩ := reads
  · exact kept partition held
  · exact exported partition member

-- Whatever was resolved before, no device is twice in what is remembered.
theorem CanHold.isSeparate (can : CanHold allowed remembered) :
    ∀ partition, remembered = some partition → partition.IsSeparate := by
  induction can with
  | nothing => nofun
  | @resolved remembered now id exchanges result _ ends exported kept =>
    by_cases encoded : Reference.isEncoded id = true
    · cases resolve_ends encoded ends with
      | unread => exact kept
      | unchanged reads =>
        rintro _ ⟨⟩
        exact reads.isSeparate kept exported
      | fitted _ _ reads fitted =>
        rintro _ ⟨⟩
        exact fitted.isSeparate (reads.isSeparate kept exported)
    · rw [resolve, if_neg encoded] at ends
      obtain ⟨-, same⟩ := ends
      cases same
      exact kept

theorem Fitted.realizes_iff (fitted : Fitted partition index geometry changed)
    (separate : partition.IsSeparate) (distinct : geometry.IsDistinct) :
    ∃ found entry, partition.Gives index found ∧ changed.Gives index entry ∧
      (entry.Realizes geometry ↔ (found.suits geometry = true → found.Realizes geometry)) := by
  cases fitted with
  | @already entries position entry located suits =>
    obtain ⟨inForce, held, covers⟩ := locate_eq_ok located
    have given := (separate _ inForce).isEntryOf held covers
    exact ⟨entry, entry, ⟨entries, inForce, given⟩, ⟨entries, inForce, given⟩,
      fun realizes _ => realizes, fun realizes => realizes suits⟩
  | @changed entries position entry located other =>
    obtain ⟨inForce, held, covers⟩ := locate_eq_ok located
    have given := (separate _ inForce).isEntryOf held covers
    have now := (separate _ inForce).isEntryOf_repartition held covers geometry
    refine ⟨entry, geometry.entry index, ⟨entries, inForce, given⟩,
      ⟨_, Partition.current?_setCurrent _ _, now⟩, ?_⟩
    exact iff_of_true (distinct.realizes_entry index) fun suits => by cases other.symm.trans suits

theorem mem_of_findGeometry {model group : String} (found : findGeometry allowed model group = .ok geometry) :
    ∃ suited ∈ allowed, geometry ∈ suited.geometries := by
  obtain ⟨suited, chosen, named⟩ := findGeometry_eq_ok_iff.1 found
  exact ⟨suited, chosen.mem.1, named.mem.1⟩

-- After a resolution the device has just the instances of the geometry, unless its entry had them already
-- and said something else besides.
theorem partitions_device_iff {uuid : String}
    (distinct : ∀ suited ∈ allowed, ∀ geometry ∈ suited.geometries, geometry.IsDistinct)
    (can : CanHold allowed remembered) (encoded : Reference.isEncoded id = true)
    (ends : (resolve allowed remembered id).Ends exchanges (.ok uuid, now))
    (exported : ∀ partition ∈ readings exchanges, partition.IsSeparate) :
    ∃ reference device geometry before found after entry, Reference.parse id = .ok reference ∧
      Picks allowed exchanges reference device geometry ∧ Reads remembered exchanges before ∧
      before.Gives device.index found ∧ now = some after ∧ after.Gives device.index entry ∧
      (entry.Realizes geometry ↔ (found.suits geometry = true → found.Realizes geometry)) := by
  cases resolve_ends encoded ends with
  | @fitted _ reference device geometry before after parsed picks reads fitted =>
    have ⟨_, _, _, suited⟩ := picks
    obtain ⟨choice, member, among⟩ := mem_of_findGeometry suited
    obtain ⟨found, entry, had, has, realizes⟩ := fitted.realizes_iff
      (reads.isSeparate can.isSeparate exported) (distinct choice member geometry among)
    exact ⟨reference, device, geometry, before, found, after, entry, parsed, picks, reads, had, rfl, has,
      realizes⟩

def small : Geometry := ⟨"small", [⟨"1g.6gb", 6144, 2⟩]⟩

def single (instances : Dictionary Int32) : Partition :=
  ⟨"v1", Dictionary.empty.insert currentConfig [⟨.indices [0], true, instances⟩]⟩

def a30 (instances : Dictionary Int32) : World where
  inventory := {
    gpus := [⟨0, "GPU-a30", "NVIDIA A30", 24576, true, true⟩]
    instances := [⟨0, "GPU-a30", 0, "MIG-0", "2g.12gb"⟩] }
  partitionTool := { exported := single instances }

def firstSmall : Program interface (Except MigError String × Option Partition) :=
  resolve [⟨["A30"], [small]⟩] none "GPU-a30[small-0]"

theorem gives_single {instances : Dictionary Int32} {entry : PartitionEntry}
    (gives : (single instances).Gives index entry) : index = 0 ∧ entry = ⟨.indices [0], true, instances⟩ := by
  obtain ⟨entries, inForce, given⟩ := gives
  cases inForce
  obtain rfl := List.mem_singleton.1 given.member
  have covers := given.covers
  simp only [Selector.contains, List.contains_cons, List.contains_nil, Bool.or_false, beq_iff_eq] at covers
  exact ⟨covers, rfl⟩

theorem isSeparate_single (instances : Dictionary Int32) : (single instances).IsSeparate := by
  intro entries inForce
  cases inForce
  intro index first second a b here there _ _
  obtain ⟨below, -⟩ := List.getElem?_eq_some_iff.1 here
  obtain ⟨below', -⟩ := List.getElem?_eq_some_iff.1 there
  simp only [List.length_singleton, Nat.lt_one_iff] at below below'
  rw [below, below']

-- A device that has a larger instance only is given the small ones and no others.
theorem partitions_device_larger : ∃ after entry,
    (firstSmall.run World.serve (a30 (Dictionary.empty.insert "2g.12gb" 2))).1 = (.ok "MIG-0", some after) ∧
      after.Gives 0 entry ∧ entry.Realizes small := by
  obtain ⟨resolved, read⟩ :
      (firstSmall.run World.serve (a30 (Dictionary.empty.insert "2g.12gb" 2))).1.1 = .ok "MIG-0" ∧
      readings (firstSmall.trace World.serve (a30 (Dictionary.empty.insert "2g.12gb" 2))) =
        [single (Dictionary.empty.insert "2g.12gb" 2)] := by decide +kernel
  have only : ∀ suited ∈ [(⟨["A30"], [small]⟩ : ModelGeometries)], ∀ geometry ∈ suited.geometries,
      geometry = small := by simp
  have distinct : (small.instances.map (·.name)).Nodup := by decide
  have ends := ends_run World.serve firstSmall (a30 (Dictionary.empty.insert "2g.12gb" 2))
  rw [show (firstSmall.run World.serve (a30 (Dictionary.empty.insert "2g.12gb" 2))).1 = (.ok "MIG-0", _)
    from Prod.ext resolved rfl] at ends
  obtain ⟨reference, device, geometry, before, found, after, entry, -, picks, reads, had, is, has, realizes⟩ :=
    partitions_device_iff (fun suited member geometry among => only suited member geometry among ▸ distinct)
      .nothing (by decide +kernel) ends fun partition member => by
        rw [read, List.mem_singleton] at member
        exact member ▸ isSeparate_single _
  obtain ⟨_, _, _, suited⟩ := picks
  obtain ⟨choice, member, among⟩ := mem_of_findGeometry suited
  obtain rfl := only choice member geometry among
  obtain ⟨⟨⟩⟩ | ⟨-, member⟩ := reads
  rw [read, List.mem_singleton] at member
  subst member
  obtain ⟨zero, rfl⟩ := gives_single had
  rw [zero] at has
  exact ⟨after, entry, Prod.ext resolved is, has, realizes.2 fun suits => absurd suits (by decide +kernel)⟩

-- A device that has the small instances and a larger one keeps them all.
theorem keeps_larger_instance :
    (firstSmall.run World.serve (a30 ((Dictionary.empty.insert "1g.6gb" 2).insert "2g.12gb" 1))).1 =
      (.ok "MIG-0", some (single ((Dictionary.empty.insert "1g.6gb" 2).insert "2g.12gb" 1))) ∧
    ∀ entry, (single ((Dictionary.empty.insert "1g.6gb" 2).insert "2g.12gb" 1)).Gives 0 entry →
      ¬ entry.Realizes small := by
  refine ⟨by decide +kernel, fun entry gives realizes => ?_⟩
  obtain ⟨-, rfl⟩ := gives_single gives
  obtain ⟨template, member, named, -⟩ := (realizes.instances "2g.12gb" 1).1 (by decide +kernel)
  obtain rfl := List.mem_singleton.1 member
  exact absurd named (by decide)

end Resolving

end GpuShare.Agent.MigResolver
