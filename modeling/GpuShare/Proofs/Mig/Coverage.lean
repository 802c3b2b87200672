import GpuShare.Agent.MigResolver
import GpuShare.Proofs.Dictionary

/-! A device that an entry covers stays covered, whichever device gets another geometry. -/

set_option autoImplicit false

namespace GpuShare

namespace Mig

variable {entries : List PartitionEntry} {entry : PartitionEntry} {position : Nat}
  {index other : UInt32}

def Covers (entries : List PartitionEntry) (index : UInt32) : Prop :=
  ∃ entry ∈ entries, entry.devices.contains index = true

/-- The entries name their devices, as those of an exported partition do. -/
def AreExplicit (entries : List PartitionEntry) : Prop := ∀ entry ∈ entries, entry.devices ≠ .all

theorem entryPosition?_of_covers (covers : Covers entries index) :
    ∃ position entry, entryPosition? entries index = some position ∧ entries[position]? = some entry ∧
      entry.devices.contains index = true := by
  obtain ⟨covering, member, contains⟩ := covers
  cases found : entryPosition? entries index with
  | none =>
    have none_covers := List.findIdx?_eq_none_iff.1 found covering member
    rw [contains] at none_covers
    cases none_covers
  | some position =>
    obtain ⟨below, first, -⟩ := List.findIdx?_eq_some_iff_getElem.1 found
    exact ⟨position, entries[position], rfl, List.getElem?_eq_getElem below, first⟩

theorem contains_entry (geometry : Geometry) (index : UInt32) :
    (geometry.entry index).devices.contains index = true := by
  simp [Geometry.entry, Selector.contains]

theorem covers_set (covers : Covers entries other) (held : entries[position]? = some entry)
    (changed : PartitionEntry)
    (keeps : entry.devices.contains other = true → changed.devices.contains other = true) :
    Covers (entries.set position changed) other := by
  obtain ⟨by_, member, contains⟩ := covers
  obtain ⟨place, here⟩ := List.mem_iff_getElem?.1 member
  by_cases same : place = position
  · subst same
    obtain rfl := Option.some.inj (held.symm.trans here)
    obtain ⟨below, -⟩ := List.getElem?_eq_some_iff.1 held
    exact ⟨changed, List.mem_set below changed, keeps contains⟩
  · refine ⟨by_, List.mem_iff_getElem?.2 ⟨place, ?_⟩, contains⟩
    rw [List.getElem?_set_ne (Ne.symm same), here]

theorem covers_repartition (covers : Covers entries other) (held : entries[position]? = some entry)
    (here : entry.devices.contains index = true) (explicit : entry.devices ≠ .all)
    (geometry : Geometry) : Covers (repartition entries position index geometry) other := by
  have own : entry.devices.contains other = true → other = index →
      (geometry.entry index).devices.contains other = true := by
    rintro - rfl
    exact contains_entry geometry other
  obtain ⟨devices, enabled, instances⟩ := entry
  rw [repartition, held]
  cases devices with
  | all => exact absurd rfl explicit
  | indices list =>
    cases list with
    | nil => cases here
    | cons first rest =>
      cases rest with
      | nil =>
        -- The entry covers this device alone.
        refine covers_set covers held _ fun contains => own contains ?_
        simp only [Selector.contains, List.contains_cons, List.contains_nil, Bool.or_false,
          beq_iff_eq] at here contains
        rw [here, contains]
      | cons second rest =>
        by_cases same : other = index
        · subst same
          exact ⟨_, List.mem_append_right _ (List.mem_singleton_self _), contains_entry geometry other⟩
        · obtain ⟨by_, member, contains⟩ := covers_set covers held
            ⟨.indices ((first :: second :: rest).filter (· != index)), enabled, instances⟩
            fun contains => by
              simp only [Selector.contains, List.contains_iff_mem] at contains ⊢
              exact List.mem_filter.2 ⟨contains, by simpa using same⟩
          exact ⟨by_, List.mem_append_left _ member, contains⟩

theorem explicit_repartition (explicit : AreExplicit entries) (position : Nat) (index : UInt32)
    (geometry : Geometry) : AreExplicit (repartition entries position index geometry) := by
  have of_set : ∀ changed : PartitionEntry, changed.devices ≠ .all →
      AreExplicit (entries.set position changed) := by
    intro changed names by_ member
    rcases List.mem_or_eq_of_mem_set member with old | rfl
    · exact explicit by_ old
    · exact names
  have own : (geometry.entry index).devices ≠ .all := Selector.noConfusion
  rw [repartition]
  split
  · intro by_ member
    rcases List.mem_append.1 member with old | new
    · refine of_set _ (fun all => ?_) by_ old
      cases all
    · rw [List.mem_singleton.1 new]
      exact own
  · exact of_set _ own

theorem explicit_expand (count : Nat) (entries : List PartitionEntry) :
    AreExplicit (entries.map (·.expand count)) := by
  intro entry member
  obtain ⟨old, -, rfl⟩ := List.mem_map.1 member
  show old.devices.expand count ≠ .all
  cases old.devices with
  | all => nofun
  | indices list =>
    cases list with
    | nil => nofun
    | cons first rest => nofun

namespace Partition

variable {partition : Partition}

def Covers (partition : Partition) (index : UInt32) : Prop :=
  ∃ entries, partition.current? = some entries ∧ Mig.Covers entries index

def IsExplicit (partition : Partition) : Prop :=
  ∀ entries, partition.current? = some entries → AreExplicit entries

theorem current?_setCurrent (partition : Partition) (entries : List PartitionEntry) :
    (partition.setCurrent entries).current? = some entries := by
  rw [current?, setCurrent, Dictionary.get?_insert, if_pos rfl]

theorem isExplicit_expand (partition : Partition) (count : Nat) : (partition.expand count).IsExplicit := by
  intro entries inForce
  rw [current?, expand, Dictionary.get?_map] at inForce
  obtain ⟨old, -, rfl⟩ := Option.map_eq_some_iff.1 inForce
  exact explicit_expand count old

end Partition

end Mig

namespace Agent.MigResolver

open Mig

variable {partition : Partition} {index : UInt32} {entries : List PartitionEntry} {position : Nat}
  {entry : PartitionEntry}

theorem locate_eq_ok (located : locate partition index = .ok (entries, position, entry)) :
    partition.current? = some entries ∧ entries[position]? = some entry ∧
      entry.devices.contains index = true := by
  rw [locate] at located
  split at located
  · cases located
  · next current inForce =>
    split at located
    · cases located
    · next first found =>
      split at located
      · cases located
      · next covering held =>
        cases located
        obtain ⟨below, covers, -⟩ := List.findIdx?_eq_some_iff_getElem.1 found
        obtain ⟨_, rfl⟩ := List.getElem?_eq_some_iff.1 held
        exact ⟨inForce, held, covers⟩

theorem locate_of_covers (covers : partition.Covers index) :
    ∃ entries position entry, locate partition index = .ok (entries, position, entry) := by
  obtain ⟨entries, inForce, covers⟩ := covers
  obtain ⟨position, entry, found, held, -⟩ := entryPosition?_of_covers covers
  refine ⟨entries, position, entry, ?_⟩
  simp only [locate, inForce, found, held]

theorem covers_of_locate (located : locate partition index = .ok (entries, position, entry)) :
    partition.Covers index := by
  obtain ⟨inForce, held, contains⟩ := locate_eq_ok located
  exact ⟨entries, inForce, entry, List.mem_of_getElem? held, contains⟩

-- A device that is covered stays covered when another gets its geometry.
theorem covers_changed (explicit : partition.IsExplicit) {other : UInt32}
    (covers : partition.Covers other)
    (located : locate partition index = .ok (entries, position, entry)) (geometry : Geometry) :
    (partition.setCurrent (repartition entries position index geometry)).Covers other := by
  obtain ⟨inForce, held, contains⟩ := locate_eq_ok located
  obtain ⟨same, also, covers⟩ := covers
  obtain rfl := Option.some.inj (inForce.symm.trans also)
  exact ⟨_, Partition.current?_setCurrent _ _, covers_repartition covers held contains
    (explicit entries inForce entry (List.mem_of_getElem? held)) geometry⟩

theorem explicit_changed (explicit : partition.IsExplicit)
    (located : locate partition index = .ok (entries, position, entry)) (geometry : Geometry) :
    (partition.setCurrent (repartition entries position index geometry)).IsExplicit := by
  intro changed inForce
  rw [Partition.current?_setCurrent] at inForce
  obtain rfl := Option.some.inj inForce
  exact explicit_repartition (explicit entries (locate_eq_ok located).1) position index geometry

end Agent.MigResolver

end GpuShare
