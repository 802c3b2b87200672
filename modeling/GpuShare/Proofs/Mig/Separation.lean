import GpuShare.Proofs.Lists
import GpuShare.Proofs.Mig.Coverage

/-!
Partitions whose entries have no device in common. They stay so when a device gets another geometry, and the
entry of the device then says just what the geometry says.
-/

set_option autoImplicit false

namespace GpuShare.Mig

variable {entries : List PartitionEntry} {entry changed last : PartitionEntry} {position : Nat}
  {index : UInt32} {geometry : Geometry}

def AreSeparate (entries : List PartitionEntry) : Prop :=
  ∀ (index : UInt32) (first second : Nat) (a b : PartitionEntry), entries[first]? = some a →
    entries[second]? = some b → a.devices.contains index = true → b.devices.contains index = true →
    first = second

structure IsEntryOf (entries : List PartitionEntry) (index : UInt32) (entry : PartitionEntry) : Prop where
  member : entry ∈ entries
  covers : entry.devices.contains index = true
  alone : ∀ other ∈ entries, other.devices.contains index = true → other = entry

/-- An entry partitions its devices into the instances of a geometry and no others. -/
structure PartitionEntry.Realizes (entry : PartitionEntry) (geometry : Geometry) : Prop where
  enabled : entry.enabled = true
  instances : ∀ name count, entry.instances.get? name = some count ↔
    ∃ template ∈ geometry.instances, template.name = name ∧ template.count = count

def Geometry.IsDistinct (geometry : Geometry) : Prop := (geometry.instances.map (·.name)).Nodup

theorem Geometry.IsDistinct.realizes_entry (distinct : geometry.IsDistinct) (index : UInt32) :
    (geometry.entry index).Realizes geometry := by
  refine ⟨rfl, fun name count => ?_⟩
  have keys : ((geometry.instances.map fun template => (template.name, template.count)).map (·.1)).Nodup := by
    rw [List.map_map]
    exact distinct
  refine (Dictionary.get?_ofList keys name count).trans ?_
  simp

theorem contains_entry_iff {other : UInt32} :
    (geometry.entry index).devices.contains other = true ↔ other = index := by
  simp [Geometry.entry, Selector.contains]

theorem AreSeparate.isEntryOf (separate : AreSeparate entries) (held : entries[position]? = some entry)
    (covers : entry.devices.contains index = true) : IsEntryOf entries index entry := by
  refine ⟨List.mem_of_getElem? held, covers, fun other member also => ?_⟩
  obtain ⟨place, here⟩ := List.getElem?_of_mem member
  obtain rfl := separate index place position other entry here held also covers
  exact Option.some.inj (here.symm.trans held)

theorem AreSeparate.set (separate : AreSeparate entries) (held : entries[position]? = some entry)
    (fewer : ∀ other, changed.devices.contains other = true → entry.devices.contains other = true) :
    AreSeparate (entries.set position changed) := by
  -- Whatever covers a device after the change, the entry at its place did before.
  have before : ∀ (index : UInt32) (place : Nat) (a : PartitionEntry),
      (entries.set position changed)[place]? = some a → a.devices.contains index = true →
      ∃ b, entries[place]? = some b ∧ b.devices.contains index = true := by
    intro index place a here covers
    by_cases same : position = place
    · subst same
      rw [List.getElem?_set_self (List.getElem?_eq_some_iff.1 held).1] at here
      cases here
      exact ⟨entry, held, fewer index covers⟩
    · rw [List.getElem?_set_ne same] at here
      exact ⟨a, here, covers⟩
  intro index first second a b here there covers also
  obtain ⟨a, here, covers⟩ := before index first a here covers
  obtain ⟨b, there, also⟩ := before index second b there also
  exact separate index first second a b here there covers also

theorem AreSeparate.concat (separate : AreSeparate entries)
    (apart : ∀ entry ∈ entries, ∀ index, last.devices.contains index = true →
      ¬ entry.devices.contains index = true) : AreSeparate (entries ++ [last]) := by
  have places : ∀ (place : Nat) (a : PartitionEntry), (entries ++ [last])[place]? = some a →
      entries[place]? = some a ∨ place = entries.length ∧ a = last := by
    intro place a here
    rw [List.getElem?_append] at here
    split at here
    · exact .inl here
    · next beyond =>
      obtain ⟨only, is⟩ := List.getElem?_eq_some_iff.1 here
      simp only [List.length_singleton, Nat.lt_one_iff] at only
      simp only [List.getElem_singleton] at is
      exact .inr ⟨by omega, is.symm⟩
  intro index first second a b here there covers also
  obtain old | ⟨rfl, rfl⟩ := places first a here
  · obtain old' | ⟨rfl, rfl⟩ := places second b there
    · exact separate index first second a b old old' covers also
    · exact absurd covers (apart a (List.mem_of_getElem? old) index also)
  · obtain old' | ⟨rfl, rfl⟩ := places second b there
    · exact absurd also (apart b (List.mem_of_getElem? old') index covers)
    · rfl

def Selector.listed : Selector → List UInt32
  | all => []
  | indices list => list

theorem Selector.contains_of_mem {selector : Selector} (listed : index ∈ selector.listed) :
    selector.contains index = true := by
  cases selector with
  | all => rfl
  | indices list => exact List.contains_iff_mem.2 listed

def PartitionEntry.without (entry : PartitionEntry) (index : UInt32) : PartitionEntry :=
  { entry with devices := .indices (entry.devices.listed.filter (· != index)) }

theorem contains_without {other : UInt32} :
    (entry.without index).devices.contains other = true ↔ other ∈ entry.devices.listed ∧ other ≠ index := by
  simp [PartitionEntry.without, Selector.contains]

-- The device gets an entry of its own, in the place of one that names no other device or after one that keeps
-- the other devices.
theorem repartition_cases (held : entries[position]? = some entry) (index : UInt32) (geometry : Geometry) :
    (entry.devices.listed.length ≤ 1 ∧
      repartition entries position index geometry = entries.set position (geometry.entry index)) ∨
    2 ≤ entry.devices.listed.length ∧ repartition entries position index geometry =
      entries.set position (entry.without index) ++ [geometry.entry index] := by
  obtain ⟨devices, enabled, instances⟩ := entry
  rw [repartition, held]
  split
  · next same =>
    cases same
    exact .inr ⟨Nat.le_add_left 2 _, rfl⟩
  · next other =>
    refine .inl ⟨Nat.not_lt.1 fun several => ?_, rfl⟩
    cases devices with
    | all => cases several
    | indices list =>
      obtain _ | ⟨first, _ | ⟨second, rest⟩⟩ := list
      · exact absurd several (Nat.not_lt_zero 1)
      · exact absurd several (Nat.lt_irrefl 1)
      · exact other first second rest enabled instances rfl

theorem AreSeparate.repartition (separate : AreSeparate entries) (held : entries[position]? = some entry)
    (covers : entry.devices.contains index = true) (geometry : Geometry) :
    AreSeparate (repartition entries position index geometry) := by
  obtain ⟨-, same⟩ | ⟨-, same⟩ := repartition_cases held index geometry
  · rw [same]
    refine separate.set held fun other also => ?_
    rwa [contains_entry_iff.1 also]
  · rw [same]
    have left : AreSeparate (entries.set position (entry.without index)) :=
      separate.set held fun other also => Selector.contains_of_mem (contains_without.1 also).1
    refine left.concat fun a member other also already => ?_
    -- Only the entry at the position covered the device, and what is left there does not.
    obtain rfl := contains_entry_iff.1 also
    obtain ⟨place, here⟩ := List.getElem?_of_mem member
    by_cases there : position = place
    · subst there
      rw [List.getElem?_set_self (List.getElem?_eq_some_iff.1 held).1] at here
      cases here
      exact (contains_without.1 already).2 rfl
    · rw [List.getElem?_set_ne there] at here
      exact there (separate other position place entry a held here covers already)

theorem mem_repartition (held : entries[position]? = some entry) (index : UInt32) (geometry : Geometry) :
    geometry.entry index ∈ repartition entries position index geometry := by
  obtain ⟨-, same⟩ | ⟨-, same⟩ := repartition_cases held index geometry
  · rw [same]
    exact List.mem_set (List.getElem?_eq_some_iff.1 held).1 _
  · rw [same]
    exact List.mem_append_right _ (List.mem_singleton_self _)

theorem AreSeparate.isEntryOf_repartition (separate : AreSeparate entries)
    (held : entries[position]? = some entry) (covers : entry.devices.contains index = true)
    (geometry : Geometry) :
    IsEntryOf (Mig.repartition entries position index geometry) index (geometry.entry index) := by
  have still := separate.repartition held covers geometry
  obtain ⟨place, here⟩ := List.getElem?_of_mem (mem_repartition held index geometry)
  exact still.isEntryOf here (contains_entry geometry index)

namespace Partition

def IsSeparate (partition : Partition) : Prop :=
  ∀ entries, partition.current? = some entries → AreSeparate entries

def Gives (partition : Partition) (index : UInt32) (entry : PartitionEntry) : Prop :=
  ∃ entries, partition.current? = some entries ∧ IsEntryOf entries index entry

end Partition

end GpuShare.Mig
