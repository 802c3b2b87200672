import GpuShare.Proofs.Text.Split
import GpuShare.Proofs.Agent.ResolvingStages

/-!
The checks that a reference has to pass before anything is done for it: its device is listed, geometries are
allowed for the model, one of them is of its group, and that one has an instance at its position. They are made
in this order, of the devices as they are listed first.
-/

set_option autoImplicit false

namespace GpuShare

open Text

def IsFirst {α : Type} (property : α → Prop) (list : List α) (a : α) : Prop :=
  ∃ before after, list = before ++ a :: after ∧ property a ∧ ∀ earlier ∈ before, ¬ property earlier

section First

variable {α : Type} {property : α → Prop} {p : α → Bool} {list : List α} {a : α}

theorem IsFirst.mem (first : IsFirst property list a) : a ∈ list ∧ property a := by
  obtain ⟨before, after, rfl, has, -⟩ := first
  exact ⟨by simp, has⟩

theorem isFirst_iff (decides : ∀ a, p a = true ↔ property a) :
    IsFirst property list a ↔ list.find? p = some a := by
  simp only [List.find?_eq_some_iff_append, IsFirst, ← decides, Bool.not_eq_true']
  constructor
  · rintro ⟨before, after, split, has, others⟩
    exact ⟨has, before, after, split, fun earlier member => by simpa using others earlier member⟩
  · rintro ⟨has, before, after, split, others⟩
    exact ⟨before, after, split, has, fun earlier member => by simp [others earlier member]⟩

end First

namespace Mig

/-- Geometries are for a model if one of their fragments is a part of its name. -/
def ModelGeometries.IsFor (choice : ModelGeometries) (model : String) : Prop :=
  ∃ fragment ∈ choice.models, fragment.toList <:+: model.toList

theorem ModelGeometries.suits_iff (choice : ModelGeometries) (model : String) :
    choice.suits model = true ↔ choice.IsFor model := by
  simp only [suits, IsFor, List.any_eq_true, occursIn_iff]

/-- The positive counts of a geometry added up, which may exceed any count. -/
def Geometry.total (geometry : Geometry) : Int :=
  geometry.instances.foldr (fun template rest => max template.count.toInt 0 + rest) 0

theorem Geometry.size_eq_total (geometry : Geometry) : (geometry.size : Int) = geometry.total := by
  have started (start : Nat) (templates : List Template) :
      ((templates.foldl (fun total template => total + template.count.toInt.toNat) start : Nat) : Int) =
        start + templates.foldr (fun template rest => max template.count.toInt 0 + rest) 0 := by
    induction templates generalizing start with
    | nil => simp
    | cons template templates ih =>
      rw [List.foldl_cons, ih, List.foldr_cons]
      omega
  rw [size, total, started]
  omega

end Mig

namespace Agent.MigResolver

open Mig Program

variable {allowed : List ModelGeometries} {gpus : List Device.Gpu} {reference : Reference}
  {device : Device.Gpu} {geometry : Geometry} {exchanges : List (Exchange interface)} {error : MigError}

def IsChoice (allowed : List ModelGeometries) (device : Device.Gpu) (choice : ModelGeometries) : Prop :=
  IsFirst (·.IsFor device.model) allowed choice

def IsDevice (gpus : List Device.Gpu) (reference : Reference) (device : Device.Gpu) : Prop :=
  IsFirst (·.uuid = reference.deviceUuid) gpus device

def IsGeometry (allowed : List ModelGeometries) (reference : Reference) (device : Device.Gpu)
    (geometry : Geometry) : Prop :=
  ∃ choice, IsChoice allowed device choice ∧ IsFirst (·.group = reference.group) choice.geometries geometry

/-- What a reference lacks. Each check is made of what has passed those before it. -/
inductive Rejects (allowed : List ModelGeometries) (gpus : List Device.Gpu) (reference : Reference) :
    MigError → Prop where
  | device : (∀ gpu ∈ gpus, gpu.uuid ≠ reference.deviceUuid) →
      Rejects allowed gpus reference (.unknownDevice reference.deviceUuid (.deviceNotFound reference.deviceUuid))
  | model {device : Device.Gpu} : IsDevice gpus reference device →
      (∀ choice ∈ allowed, ¬ choice.IsFor device.model) →
      Rejects allowed gpus reference (.unknownModel device.model)
  | group {device : Device.Gpu} {choice : ModelGeometries} : IsDevice gpus reference device →
      IsChoice allowed device choice → (∀ geometry ∈ choice.geometries, geometry.group ≠ reference.group) →
      Rejects allowed gpus reference (.unknownGroup reference.group device.model)
  | position {device : Device.Gpu} {geometry : Geometry} {available : Nat} : IsDevice gpus reference device →
      IsGeometry allowed reference device geometry → (available : Int) = geometry.total →
      geometry.total ≤ reference.position.toNat →
      Rejects allowed gpus reference (.positionOutOfRange reference.group reference.position available)

structure Admits (allowed : List ModelGeometries) (gpus : List Device.Gpu) (reference : Reference)
    (device : Device.Gpu) (geometry : Geometry) : Prop where
  named : IsDevice gpus reference device
  offered : IsGeometry allowed reference device geometry
  position : (reference.position.toNat : Int) < geometry.total

def check (allowed : List ModelGeometries) (gpus : List Device.Gpu) (reference : Reference) :
    Except MigError (Device.Gpu × Geometry) :=
  match Device.findGpu gpus reference.deviceUuid with
  | .error cause => .error (.ofInventory cause)
  | .ok device =>
    match findGeometry allowed device.model reference.group with
    | .error error => .error error
    | .ok geometry =>
      if reference.position.toNat < geometry.size then .ok (device, geometry)
      else .error (.positionOutOfRange reference.group reference.position geometry.size)

section Finding

variable {uuid model group : String}

theorem findGpu_eq_ok_iff : Device.findGpu gpus uuid = .ok device ↔ IsFirst (·.uuid = uuid) gpus device := by
  have first : IsFirst (·.uuid = uuid) gpus device ↔ gpus.find? (·.uuid == uuid) = some device :=
    isFirst_iff fun _ => beq_iff_eq
  rw [first, Device.findGpu]
  cases gpus.find? (·.uuid == uuid) with
  | none => simp
  | some gpu => simp

theorem findGpu_eq_error_iff {cause : InventoryError} :
    Device.findGpu gpus uuid = .error cause ↔
      (∀ gpu ∈ gpus, gpu.uuid ≠ uuid) ∧ cause = .deviceNotFound uuid := by
  have absent : (∀ gpu ∈ gpus, gpu.uuid ≠ uuid) ↔ gpus.find? (·.uuid == uuid) = none := by simp
  rw [absent, Device.findGpu]
  cases gpus.find? (·.uuid == uuid) with
  | none => simp [eq_comm]
  | some gpu => simp

theorem isFirst_suits_iff {choice : ModelGeometries} :
    IsFirst (·.IsFor model) allowed choice ↔ allowed.find? (·.suits model) = some choice :=
  isFirst_iff fun choice => choice.suits_iff model

theorem findGeometry_eq_ok_iff : findGeometry allowed model group = .ok geometry ↔
    ∃ choice, IsFirst (·.IsFor model) allowed choice ∧ IsFirst (·.group = group) choice.geometries geometry := by
  have first (choice : ModelGeometries) : IsFirst (·.group = group) choice.geometries geometry ↔
      choice.geometries.find? (·.group == group) = some geometry := isFirst_iff fun _ => beq_iff_eq
  simp only [isFirst_suits_iff, first, findGeometry]
  cases allowed.find? (·.suits model) with
  | none => simp
  | some choice => cases found : choice.geometries.find? (·.group == group) <;> simp [found]

theorem findGeometry_eq_error_iff : findGeometry allowed model group = .error error ↔
    (∀ choice ∈ allowed, ¬ choice.IsFor model) ∧ error = .unknownModel model ∨
    ∃ choice, IsFirst (·.IsFor model) allowed choice ∧
      (∀ geometry ∈ choice.geometries, geometry.group ≠ group) ∧ error = .unknownGroup group model := by
  have absent : (∀ choice ∈ allowed, ¬ choice.IsFor model) ↔ allowed.find? (·.suits model) = none := by
    simp only [List.find?_eq_none, ModelGeometries.suits_iff]
  have ungrouped (choice : ModelGeometries) : (∀ geometry ∈ choice.geometries, geometry.group ≠ group) ↔
      choice.geometries.find? (·.group == group) = none := by simp
  simp only [absent, ungrouped, isFirst_suits_iff, findGeometry]
  cases allowed.find? (·.suits model) with
  | none => simp [eq_comm]
  | some choice => cases found : choice.geometries.find? (·.group == group) <;> simp [found, eq_comm]

end Finding

theorem check_eq_ok_iff :
    check allowed gpus reference = .ok (device, geometry) ↔ Admits allowed gpus reference device geometry := by
  constructor
  · intro passes
    unfold check at passes
    split at passes
    · cases passes
    · next found named =>
      split at passes
      · cases passes
      · next offered =>
        split at passes
        · next below =>
          cases passes
          refine ⟨findGpu_eq_ok_iff.1 named, findGeometry_eq_ok_iff.1 offered, ?_⟩
          rw [← Geometry.size_eq_total]
          exact Int.ofNat_lt.2 below
        · cases passes
  · rintro ⟨named, offered, below⟩
    rw [← Geometry.size_eq_total, Int.ofNat_lt] at below
    simp only [check, findGpu_eq_ok_iff.2 named, findGeometry_eq_ok_iff.2 offered, if_pos below]

theorem check_eq_error_iff :
    check allowed gpus reference = .error error ↔ Rejects allowed gpus reference error := by
  constructor
  · intro fails
    unfold check at fails
    split at fails
    · next missing =>
      cases fails
      obtain ⟨absent, rfl⟩ := findGpu_eq_error_iff.1 missing
      exact .device absent
    · next named =>
      have named := findGpu_eq_ok_iff.1 named
      split at fails
      · next missing =>
        cases fails
        rcases findGeometry_eq_error_iff.1 missing with ⟨absent, rfl⟩ | ⟨choice, first, absent, rfl⟩
        · exact .model named absent
        · exact .group named first absent
      · next geometry offered =>
        split at fails
        · cases fails
        · next beyond =>
          cases fails
          refine .position named (findGeometry_eq_ok_iff.1 offered) geometry.size_eq_total ?_
          rw [← Geometry.size_eq_total]
          exact Int.ofNat_le.2 (Nat.not_lt.1 beyond)
  · intro rejects
    cases rejects with
    | device absent => simp only [check, findGpu_eq_error_iff.2 ⟨absent, rfl⟩, MigError.ofInventory]
    | model named absent =>
      simp only [check, findGpu_eq_ok_iff.2 named, findGeometry_eq_error_iff.2 (.inl ⟨absent, rfl⟩)]
    | group named first absent =>
      simp only [check, findGpu_eq_ok_iff.2 named, findGeometry_eq_error_iff.2 (.inr ⟨_, first, absent, rfl⟩)]
    | position named offered available beyond =>
      rw [← Geometry.size_eq_total] at available beyond
      have same := Int.ofNat.inj available
      have beyond := Nat.not_lt.2 (Int.ofNat_le.1 beyond)
      simp only [check, findGpu_eq_ok_iff.2 named, findGeometry_eq_ok_iff.2 offered, if_neg beyond, same]

theorem rejects_or_admits (allowed : List ModelGeometries) (gpus : List Device.Gpu) (reference : Reference) :
    (∃ e, Rejects allowed gpus reference e) ∨ ∃ device geometry, Admits allowed gpus reference device geometry := by
  cases checked : check allowed gpus reference with
  | error e => exact .inl ⟨e, check_eq_error_iff.1 checked⟩
  | ok found => exact .inr ⟨found.1, found.2, check_eq_ok_iff.1 checked⟩

theorem orFail_bind_run {ε δ α β : Type} (f : ε → δ) (outcome : Except ε α) (next : α → Action δ β) :
    (orFail f outcome >>= next).run = match outcome with
      | .ok a => (next a).run
      | .error e => .done (.error (f e)) := by
  cases outcome with
  | ok a => rfl
  | error e => rfl

-- A reference is looked up in one listing of the devices.
theorem looked_of_ends {outcome : Except MigError (Device.Gpu × Geometry)}
    (ends : (lookUp allowed reference).run.Ends exchanges outcome) :
    (∃ cause, exchanges = [⟨.gpus, .error cause⟩] ∧ outcome = .error (.ofInventory cause)) ∨
      ∃ gpus, exchanges = [⟨.gpus, .ok gpus⟩] ∧ check allowed gpus reference = outcome := by
  obtain ⟨answer, rest, rfl, ends⟩ := ends
  cases answer with
  | error cause =>
    obtain ⟨rfl, rfl⟩ := ends
    exact .inl ⟨cause, rfl, rfl⟩
  | ok gpus =>
    have checks : (do
        let device ← orFail .ofInventory (Device.findGpu gpus reference.deviceUuid)
        let geometry ← orFail id (findGeometry allowed device.model reference.group)
        if reference.position.toNat < geometry.size then return (device, geometry)
        else throw (.positionOutOfRange reference.group reference.position geometry.size) :
        Action MigError (Device.Gpu × Geometry)).run = .done (check allowed gpus reference) := by
      rw [orFail_bind_run, check]
      cases Device.findGpu gpus reference.deviceUuid with
      | error cause => rfl
      | ok device =>
        dsimp only
        rw [orFail_bind_run]
        cases findGeometry allowed device.model reference.group with
        | error error => rfl
        | ok geometry =>
          dsimp only
          split
          · rfl
          · rfl
    have ended : Ends (.done (check allowed gpus reference)) rest outcome := by
      rw [← checks]
      exact ends
    obtain ⟨rfl, rfl⟩ := ended
    exact .inr ⟨gpus, rfl, rfl⟩

end Agent.MigResolver

end GpuShare
