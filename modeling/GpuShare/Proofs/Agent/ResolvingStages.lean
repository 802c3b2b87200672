import GpuShare.Agent.MigResolver
import GpuShare.Proofs.Execution

/-!
The stages of resolving a device ID. A reference is looked up, the partition in force is told, the device is
given its geometry, and the instance is found; a failure ends the call at its stage. What is remembered is
settled by the stage alone.
-/

set_option autoImplicit false

namespace GpuShare.Agent.MigResolver

open Mig Program

variable {exchanges : List (Exchange interface)} {allowed : List ModelGeometries}
  {remembered now : Option Partition} {partition : Partition} {index : UInt32} {geometry : Geometry}
  {id : String}

inductive Ensures (partition : Partition) (index : UInt32) (geometry : Geometry) :
    List (Exchange interface) → Except MigError Partition → Prop where
  | nowhere {e : MigError} : locate partition index = .error e →
      Ensures partition index geometry [] (.error e)
  | already {entries : List PartitionEntry} {position : Nat} {entry : PartitionEntry} :
      locate partition index = .ok (entries, position, entry) → entry.suits geometry = true →
      Ensures partition index geometry [] (.ok partition)
  | applied {entries : List PartitionEntry} {position : Nat} {entry : PartitionEntry} :
      locate partition index = .ok (entries, position, entry) → entry.suits geometry = false →
      Ensures partition index geometry
        [⟨.applyPartition (partition.setCurrent (repartition entries position index geometry)), .ok ()⟩]
        (.ok (partition.setCurrent (repartition entries position index geometry)))
  | refused {entries : List PartitionEntry} {position : Nat} {entry : PartitionEntry}
      {cause : PartitionToolError} :
      locate partition index = .ok (entries, position, entry) → entry.suits geometry = false →
      Ensures partition index geometry
        [⟨.applyPartition (partition.setCurrent (repartition entries position index geometry)),
          .error cause⟩]
        (.error (.apply cause))

theorem ensures_of_ends {outcome : Except MigError Partition}
    (ends : (ensureGeometry partition index geometry).run.Ends exchanges outcome) :
    Ensures partition index geometry exchanges outcome := by
  unfold ensureGeometry at ends
  cases located : locate partition index with
  | error e =>
    rw [located] at ends
    obtain ⟨rfl, rfl⟩ := ends
    exact .nowhere located
  | ok found =>
    obtain ⟨entries, position, entry⟩ := found
    rw [located] at ends
    change Program.Ends (ExceptT.run (if entry.suits geometry then _ else _)) _ _ at ends
    split at ends
    · next suits =>
      obtain ⟨rfl, rfl⟩ := ends
      exact .already located suits
    · next other =>
      obtain ⟨answer, rest, rfl, ends⟩ := ends
      cases answer with
      | error cause =>
        obtain ⟨rfl, rfl⟩ := ends
        exact .refused located (Bool.eq_false_iff.2 other)
      | ok done =>
        obtain ⟨rfl, rfl⟩ := ends
        exact .applied located (Bool.eq_false_iff.2 other)

-- What the partition has, and every change of it, has whatever comes of it or was asked for.
theorem Ensures.preserves {outcome : Except MigError Partition}
    (ensures : Ensures partition index geometry exchanges outcome) (property : Partition → Prop)
    (here : property partition)
    (next : ∀ entries position entry, locate partition index = .ok (entries, position, entry) →
      property (partition.setCurrent (repartition entries position index geometry))) :
    (∀ changed, outcome = .ok changed → property changed) ∧
      ∀ asked answer, ⟨.applyPartition asked, answer⟩ ∈ exchanges → property asked := by
  cases ensures with
  | nowhere => exact ⟨nofun, nofun⟩
  | already => exact ⟨fun _ same => Except.ok.inj same ▸ here, nofun⟩
  | applied located =>
    refine ⟨fun _ same => Except.ok.inj same ▸ next _ _ _ located, fun asked answer member => ?_⟩
    cases List.mem_singleton.1 member
    exact next _ _ _ located
  | refused located =>
    refine ⟨nofun, fun asked answer member => ?_⟩
    cases List.mem_singleton.1 member
    exact next _ _ _ located

inductive Stage (allowed : List ModelGeometries) (remembered : Option Partition) (id : String) :
    List (Exchange interface) → Except MigError String → Option Partition → Prop where
  | plain : Reference.isEncoded id = false → Stage allowed remembered id [] (.ok id) remembered
  | flawed {flaw : Reference.Flaw} : Reference.parse id = .error flaw →
      Stage allowed remembered id [] (.error (.invalidReference id flaw)) remembered
  | unknown {looking : List (Exchange interface)} {reference : Reference} {e : MigError} :
      Reference.parse id = .ok reference → (lookUp allowed reference).run.Ends looking (.error e) →
      Stage allowed remembered id looking (.error e) remembered
  | untold {looking telling : List (Exchange interface)} {reference : Reference} {device : Device.Gpu}
      {geometry : Geometry} {e : MigError} :
      Reference.parse id = .ok reference →
      (lookUp allowed reference).run.Ends looking (.ok (device, geometry)) →
      (current remembered device.index).run.Ends telling (.error e) →
      Stage allowed remembered id (looking ++ telling) (.error e) remembered
  | unchanged {looking telling ensuring : List (Exchange interface)} {reference : Reference}
      {device : Device.Gpu} {geometry : Geometry} {partition : Partition} {e : MigError} :
      Reference.parse id = .ok reference →
      (lookUp allowed reference).run.Ends looking (.ok (device, geometry)) →
      (current remembered device.index).run.Ends telling (.ok partition) →
      Ensures partition device.index geometry ensuring (.error e) →
      Stage allowed remembered id (looking ++ (telling ++ ensuring)) (.error e) (some partition)
  | fitted {looking telling ensuring finding : List (Exchange interface)} {reference : Reference}
      {device : Device.Gpu} {geometry : Geometry} {partition changed : Partition}
      {result : Except MigError String} :
      Reference.parse id = .ok reference →
      (lookUp allowed reference).run.Ends looking (.ok (device, geometry)) →
      (current remembered device.index).run.Ends telling (.ok partition) →
      Ensures partition device.index geometry ensuring (.ok changed) →
      (findInstance reference device).run.Ends finding result →
      Stage allowed remembered id (looking ++ (telling ++ (ensuring ++ finding))) result (some changed)

theorem stage_of_ends {result : Except MigError String}
    (ends : (resolve allowed remembered id).Ends exchanges (result, now)) :
    Stage allowed remembered id exchanges result now := by
  unfold resolve at ends
  by_cases encoded : Reference.isEncoded id = true
  · rw [if_pos encoded] at ends
    cases parsed : Reference.parse id with
    | error flaw =>
      rw [parsed] at ends
      obtain ⟨rfl, same⟩ := ends
      cases same
      exact .flawed parsed
    | ok reference =>
      rw [parsed] at ends
      obtain ⟨found, looking, rest, rfl, looks, ends⟩ := Program.ends_bind.1 ends
      cases found with
      | error e =>
        obtain ⟨rfl, same⟩ := ends
        cases same
        rw [List.append_nil]
        exact .unknown parsed looks
      | ok found =>
        obtain ⟨device, geometry⟩ := found
        obtain ⟨told, telling, rest, rfl, tells, ends⟩ := Program.ends_bind.1 ends
        cases told with
        | error e =>
          obtain ⟨rfl, same⟩ := ends
          cases same
          rw [List.append_nil]
          exact .untold parsed looks tells
        | ok partition =>
          obtain ⟨ensured, ensuring, rest, rfl, ensures, ends⟩ := Program.ends_bind.1 ends
          cases ensured with
          | error e =>
            obtain ⟨rfl, same⟩ := ends
            cases same
            rw [List.append_nil]
            exact .unchanged parsed looks tells (ensures_of_ends ensures)
          | ok changed =>
            obtain ⟨answer, finding, rest, rfl, finds, rfl, same⟩ := Program.ends_bind.1 ends
            cases same
            rw [List.append_nil]
            exact .fitted parsed looks tells (ensures_of_ends ensures) finds
  · rw [if_neg encoded] at ends
    obtain ⟨rfl, same⟩ := ends
    cases same
    exact .plain (Bool.eq_false_iff.2 encoded)

end GpuShare.Agent.MigResolver
