import GpuShare.Proofs.Agent.Coherence

/-!
How a call of the resolver ends, with all that was asked. The devices are listed first and the reference is
checked; only what passes all checks has the partition in force told, and at most one change is asked for.
-/

set_option autoImplicit false

namespace GpuShare

open Text

namespace Mig.Reference

variable {id : String} {reference : Reference}

theorem isEncoded_iff : isEncoded id = true ↔ '[' ∈ id.toList := List.contains_iff_mem

theorem isEncoded_of_parse (parsed : parse id = .ok reference) : isEncoded id = true := by
  rw [isEncoded_iff]
  cases cut : splitFirst? '[' id.toList with
  | none =>
    unfold parse at parsed
    rw [cut] at parsed
    cases parsed
  | some parts =>
    obtain ⟨joined, -⟩ := splitFirst?_eq_some.1 cut
    rw [← joined]
    simp

end Mig.Reference

namespace Agent.MigResolver

open Mig Program

variable {exchanges more : List (Exchange interface)} {allowed : List ModelGeometries}
  {remembered now : Option Partition} {partition held : Partition} {index : UInt32} {geometry : Geometry}
  {id : String}

/-! ## What was asked for -/

def asked? : Exchange interface → Option Partition
  | ⟨.applyPartition partition, _⟩ => some partition
  | _ => none

def asked (exchanges : List (Exchange interface)) : List Partition := exchanges.filterMap asked?

theorem asked_append (first rest : List (Exchange interface)) :
    asked (first ++ rest) = asked first ++ asked rest := List.filterMap_append

theorem mem_asked : partition ∈ asked exchanges ↔ ∃ answer, ⟨.applyPartition partition, answer⟩ ∈ exchanges := by
  rw [asked, List.mem_filterMap]
  constructor
  · rintro ⟨exchange, member, is⟩
    unfold asked? at is
    split at is
    · cases is
      exact ⟨_, member⟩
    · cases is
  · rintro ⟨answer, member⟩
    exact ⟨_, member, rfl⟩

def listed? : Exchange interface → Option (List Device.Gpu)
  | ⟨.gpus, .ok gpus⟩ => some gpus
  | _ => none

theorem eq_cons_of_listed {gpus : List Device.Gpu} (first : exchanges.head?.bind listed? = some gpus) :
    ∃ rest, exchanges = ⟨.gpus, .ok gpus⟩ :: rest := by
  cases exchanges with
  | nil => cases first
  | cons exchange rest =>
    change listed? exchange = some gpus at first
    unfold listed? at first
    split at first
    · cases first
      exact ⟨rest, rfl⟩
    · cases first

/-! ## The parts of a call -/

inductive Untold (index : UInt32) : List (Exchange interface) → MigError → Prop where
  | unexported {cause : PartitionToolError} :
      Untold index [⟨.exportPartition, .error cause⟩] (.noPartition index (some cause))
  | uncounted {exported : Partition} {cause : InventoryError} :
      Untold index [⟨.exportPartition, .ok exported⟩, ⟨.gpus, .error cause⟩] (.ofInventory cause)

theorem untold_of_ends {e : MigError} (ends : (current remembered index).run.Ends exchanges (.error e)) :
    remembered = none ∧ Untold index exchanges e := by
  cases remembered with
  | some held => cases ends.2
  | none =>
    refine ⟨rfl, ?_⟩
    obtain ⟨exporting, rest, rfl, ends⟩ := ends
    cases exporting with
    | error cause =>
      obtain ⟨rfl, same⟩ := ends
      cases same
      exact .unexported
    | ok exported =>
      obtain ⟨counting, rest, rfl, ends⟩ := ends
      cases counting with
      | error cause =>
        obtain ⟨rfl, same⟩ := ends
        cases same
        exact .uncounted
      | ok gpus => cases ends.2

theorem Untold.asked_eq_nil {e : MigError} (untold : Untold index exchanges e) : asked exchanges = [] := by
  cases untold with
  | unexported => rfl
  | uncounted => rfl

theorem Told.asked_eq_nil (told : Told remembered exchanges (.ok held)) : asked exchanges = [] := by
  cases told with
  | remembered => rfl
  | exported => rfl

theorem Ensures.asked_length {outcome : Except MigError Partition}
    (ensures : Ensures held index geometry exchanges outcome) : (asked exchanges).length ≤ 1 := by
  cases ensures with
  | nowhere => exact Nat.zero_le 1
  | already => exact Nat.zero_le 1
  | applied => exact Nat.le_refl 1
  | refused => exact Nat.le_refl 1

-- Only giving a device its geometry asks for a change.
theorem Told.asked_append (told : Told remembered exchanges (.ok held)) (rest : List (Exchange interface)) :
    asked (exchanges ++ rest) = asked rest := by
  rw [MigResolver.asked_append, told.asked_eq_nil, List.nil_append]

theorem asked_append_found (answer : Except InventoryError (List Device.MigInstance)) :
    asked (exchanges ++ [⟨.migInstances, answer⟩]) = asked exchanges := by
  rw [asked_append, show asked [⟨.migInstances, answer⟩] = [] from rfl, List.append_nil]

theorem Told.reads (told : Told remembered exchanges (.ok held)) : Reads remembered exchanges held := by
  cases told with
  | remembered is => exact .inl is
  | exported nothing => exact .inr ⟨nothing, List.mem_singleton_self _⟩

theorem found_of_ends {reference : Reference} {device : Device.Gpu} {result : Except MigError String}
    (ends : (findInstance reference device).run.Ends exchanges result) :
    ∃ answer, exchanges = [⟨.migInstances, answer⟩] := by
  obtain ⟨answer, rest, rfl, ends⟩ := ends
  refine ⟨answer, ?_⟩
  cases answer with
  | error cause => rw [ends.1]
  | ok instances =>
    change Program.Ends (ExceptT.run (orFail _ (.ok instances) >>= _)) _ _ at ends
    rw [orFail_bind_run] at ends
    dsimp only at ends
    split at ends
    · rw [ends.1]
    · rw [ends.1]

/-- A call is for a device: its reference names it, of the devices as they are listed first. -/
def IsFor (id : String) (exchanges : List (Exchange interface)) (index : UInt32) : Prop :=
  ∃ reference gpus rest device, Reference.parse id = .ok reference ∧ exchanges = ⟨.gpus, .ok gpus⟩ :: rest ∧
    IsDevice gpus reference device ∧ device.index = index

inductive GoesOn (remembered : Option Partition) (index : UInt32) (geometry : Geometry) :
    List (Exchange interface) → Except MigError String → Option Partition → Prop where
  | untold {telling : List (Exchange interface)} {e : MigError} : remembered = none → Untold index telling e →
      GoesOn remembered index geometry telling (.error e) remembered
  | unchanged {telling ensuring : List (Exchange interface)} {held : Partition} {e : MigError} :
      Told remembered telling (.ok held) → Ensures held index geometry ensuring (.error e) →
      GoesOn remembered index geometry (telling ++ ensuring) (.error e) (some held)
  | fitted {telling ensuring : List (Exchange interface)} {held changed : Partition}
      {answer : Except InventoryError (List Device.MigInstance)} {result : Except MigError String} :
      Told remembered telling (.ok held) → Ensures held index geometry ensuring (.ok changed) →
      GoesOn remembered index geometry (telling ++ (ensuring ++ [⟨.migInstances, answer⟩])) result (some changed)

inductive Ending (allowed : List ModelGeometries) (remembered : Option Partition) (id : String) :
    List (Exchange interface) → Except MigError String → Option Partition → Prop where
  | malformed {flaw : Reference.Flaw} : Reference.parse id = .error flaw →
      Ending allowed remembered id [] (.error (.invalidReference id flaw)) remembered
  | unlisted {reference : Reference} {cause : InventoryError} : Reference.parse id = .ok reference →
      Ending allowed remembered id [⟨.gpus, .error cause⟩] (.error (.ofInventory cause)) remembered
  | rejected {reference : Reference} {gpus : List Device.Gpu} {e : MigError} :
      Reference.parse id = .ok reference → Rejects allowed gpus reference e →
      Ending allowed remembered id [⟨.gpus, .ok gpus⟩] (.error e) remembered
  | admitted {reference : Reference} {gpus : List Device.Gpu} {device : Device.Gpu} {geometry : Geometry}
      {more : List (Exchange interface)} {result : Except MigError String} {now : Option Partition} :
      Reference.parse id = .ok reference → Admits allowed gpus reference device geometry →
      GoesOn remembered device.index geometry more result now →
      Ending allowed remembered id (⟨.gpus, .ok gpus⟩ :: more) result now

-- An ID that is no reference is given back, and nothing is asked.
theorem plain_of_ends {result : Except MigError String} (plain : ¬ Reference.isEncoded id = true)
    (ends : (resolve allowed remembered id).Ends exchanges (result, now)) :
    exchanges = [] ∧ result = .ok id ∧ now = remembered := by
  rw [resolve, if_neg plain] at ends
  obtain ⟨rfl, same⟩ := ends
  cases same
  exact ⟨rfl, rfl, rfl⟩

theorem admitted_of_ends {reference : Reference} {device : Device.Gpu}
    (looks : (lookUp allowed reference).run.Ends exchanges (.ok (device, geometry))) :
    ∃ gpus, exchanges = [⟨.gpus, .ok gpus⟩] ∧ Admits allowed gpus reference device geometry := by
  obtain ⟨cause, -, failed⟩ | ⟨gpus, rfl, passed⟩ := looked_of_ends looks
  · cases failed
  · exact ⟨gpus, rfl, check_eq_ok_iff.1 passed⟩

theorem ending_of_ends {result : Except MigError String} (encoded : Reference.isEncoded id = true)
    (ends : (resolve allowed remembered id).Ends exchanges (result, now)) :
    Ending allowed remembered id exchanges result now := by
  cases stage_of_ends ends with
  | plain unencoded => cases encoded.symm.trans unencoded
  | flawed flaw => exact .malformed flaw
  | unknown parsed looks =>
    obtain ⟨cause, rfl, failed⟩ | ⟨gpus, rfl, failed⟩ := looked_of_ends looks
    · cases failed
      exact .unlisted parsed
    · exact .rejected parsed (check_eq_error_iff.1 failed)
  | untold parsed looks tells =>
    obtain ⟨gpus, rfl, admits⟩ := admitted_of_ends looks
    obtain ⟨nothing, untold⟩ := untold_of_ends tells
    exact .admitted parsed admits (.untold nothing untold)
  | unchanged parsed looks tells ensures =>
    obtain ⟨gpus, rfl, admits⟩ := admitted_of_ends looks
    rw [List.singleton_append]
    exact .admitted parsed admits (.unchanged (told_of_ends tells) ensures)
  | fitted parsed looks tells ensures finds =>
    obtain ⟨gpus, rfl, admits⟩ := admitted_of_ends looks
    obtain ⟨answer, rfl⟩ := found_of_ends finds
    rw [List.singleton_append]
    exact .admitted parsed admits (.fitted (told_of_ends tells) ensures)

end Agent.MigResolver

end GpuShare
