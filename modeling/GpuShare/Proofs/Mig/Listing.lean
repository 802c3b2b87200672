import Mathlib.Data.List.Nodup
import GpuShare.Proofs.Lists
import GpuShare.Proofs.Mig.Separation

/-!
The devices that the entries of a partition list. Giving a device its geometry only moves the device in the
list, so each device stays listed once, and no entry is left without a device. Entries of other devices keep
their instances.
-/

set_option autoImplicit false

namespace GpuShare.Mig

variable {entries : List PartitionEntry} {entry : PartitionEntry} {position : Nat}
  {index other : UInt32} {geometry wanted : Geometry}

theorem Selector.mem_listed {selector : Selector} (explicit : selector ≠ .all)
    (covers : selector.contains index = true) : index ∈ selector.listed := by
  cases selector with
  | all => exact absurd rfl explicit
  | indices list => exact List.contains_iff_mem.1 covers

def listing (entries : List PartitionEntry) : List UInt32 := entries.flatMap (·.devices.listed)

/-- Every entry names its devices and has one, and each device is listed once at most. -/
structure AreTidy (entries : List PartitionEntry) : Prop where
  explicit : AreExplicit entries
  once : (listing entries).Nodup
  some_device : ∀ entry ∈ entries, entry.devices.listed ≠ []

theorem AreTidy.mem_listed (tidy : AreTidy entries) (held : entries[position]? = some entry)
    (covers : entry.devices.contains index = true) : index ∈ entry.devices.listed :=
  Selector.mem_listed (tidy.explicit entry (List.mem_of_getElem? held)) covers

theorem AreTidy.separate (tidy : AreTidy entries) : AreSeparate entries := by
  intro index first second a b here there covers also
  by_contra differ
  exact not_mem_of_nodup_flatMap tidy.once differ here there (tidy.mem_listed here covers)
    (tidy.mem_listed there also)

theorem listing_eq (held : entries[position]? = some entry) :
    listing entries = listing (entries.take position) ++
      (entry.devices.listed ++ listing (entries.drop (position + 1))) := by
  conv_lhs => rw [eq_take_append held]
  simp only [listing, List.flatMap_append, List.flatMap_cons]

theorem listing_set (held : entries[position]? = some entry) (changed : PartitionEntry) :
    listing (entries.set position changed) = listing (entries.take position) ++
      (changed.devices.listed ++ listing (entries.drop (position + 1))) := by
  rw [set_eq_take_append held]
  simp only [listing, List.flatMap_append, List.flatMap_cons]

theorem AreTidy.listed_perm (tidy : AreTidy entries) (held : entries[position]? = some entry)
    (listed : index ∈ entry.devices.listed) :
    (index :: (entry.without index).devices.listed).Perm entry.devices.listed := by
  have once : entry.devices.listed.Nodup :=
    (List.nodup_flatMap.1 tidy.once).1 entry (List.mem_of_getElem? held)
  have rest : (entry.without index).devices.listed = entry.devices.listed.erase index :=
    (once.erase_eq_filter index).symm
  rw [rest]
  exact (List.perm_cons_erase listed).symm

-- The device is moved to the end of the list, or stays where it is.
theorem AreTidy.listing_repartition (tidy : AreTidy entries) (held : entries[position]? = some entry)
    (covers : entry.devices.contains index = true) (geometry : Geometry) :
    (listing (repartition entries position index geometry)).Perm (listing entries) := by
  have listed := tidy.mem_listed held covers
  have own : (geometry.entry index).devices.listed = [index] := rfl
  obtain ⟨short, same⟩ | ⟨-, same⟩ := repartition_cases held index geometry
  · rw [same, listing_set held, listing_eq held, own, eq_singleton_of_mem listed short]
  · have last : listing [geometry.entry index] = [index] := rfl
    rw [same, listing, List.flatMap_append]
    change (listing (entries.set position (entry.without index)) ++ listing [geometry.entry index]).Perm _
    rw [last, listing_set held, listing_eq held, List.append_assoc]
    refine List.Perm.append_left _ ?_
    refine (List.perm_append_singleton index _).trans ?_
    exact (tidy.listed_perm held listed).append_right _

theorem AreTidy.repartition (tidy : AreTidy entries) (held : entries[position]? = some entry)
    (covers : entry.devices.contains index = true) (geometry : Geometry) :
    AreTidy (repartition entries position index geometry) := by
  refine ⟨explicit_repartition tidy.explicit position index geometry,
    (tidy.listing_repartition held covers geometry).nodup_iff.2 tidy.once, ?_⟩
  have of_set (changed : PartitionEntry) (names : changed.devices.listed ≠ []) :
      ∀ other ∈ entries.set position changed, other.devices.listed ≠ [] := by
    intro other member
    rcases List.mem_or_eq_of_mem_set member with old | rfl
    · exact tidy.some_device other old
    · exact names
  have own : (geometry.entry index).devices.listed ≠ [] := List.cons_ne_nil index []
  obtain ⟨-, same⟩ | ⟨several, same⟩ := repartition_cases held index geometry
  · rw [same]
    exact of_set _ own
  · rw [same]
    refine List.forall_mem_append.2 ⟨of_set _ fun none => ?_, List.forall_mem_singleton.2 own⟩
    -- Of two devices at least one is left.
    have moved := (tidy.listed_perm held (tidy.mem_listed held covers)).length_eq
    rw [none] at moved
    rw [← moved] at several
    exact Nat.lt_irrefl 1 several

/-- A device has its geometry: the one entry that covers it has the instances. -/
def Suits (entries : List PartitionEntry) (index : UInt32) (geometry : Geometry) : Prop :=
  ∃ entry, IsEntryOf entries index entry ∧ entry.suits geometry = true

theorem Geometry.IsDistinct.suits_entry (distinct : geometry.IsDistinct) (index : UInt32) :
    (geometry.entry index).suits geometry = true := by
  refine List.all_eq_true.2 fun template member => beq_iff_eq.2 ?_
  exact ((distinct.realizes_entry index).instances _ _).2 ⟨template, member, rfl, rfl⟩

theorem AreTidy.suits_repartition (tidy : AreTidy entries) (held : entries[position]? = some entry)
    (covers : entry.devices.contains index = true) (distinct : geometry.IsDistinct) :
    Suits (Mig.repartition entries position index geometry) index geometry :=
  ⟨_, tidy.separate.isEntryOf_repartition held covers geometry, distinct.suits_entry index⟩

-- Another device keeps its entry, or the rest of an entry that it shared.
theorem AreTidy.suits_other (tidy : AreTidy entries) (held : entries[position]? = some entry)
    (covers : entry.devices.contains index = true) (geometry : Geometry) (differs : other ≠ index)
    (suits : Suits entries other wanted) :
    Suits (Mig.repartition entries position index geometry) other wanted := by
  obtain ⟨own, is, has⟩ := suits
  have separate := (tidy.repartition held covers geometry).separate
  suffices kept : ∃ kept ∈ Mig.repartition entries position index geometry,
      kept.devices.contains other = true ∧ kept.suits wanted = true by
    obtain ⟨kept, member, covers, has⟩ := kept
    obtain ⟨place, here⟩ := List.getElem?_of_mem member
    exact ⟨kept, separate.isEntryOf here covers, has⟩
  obtain ⟨place, here⟩ := List.getElem?_of_mem is.member
  by_cases shared : place = position
  · subst shared
    obtain rfl := Option.some.inj (held.symm.trans here)
    have listed := tidy.mem_listed held is.covers
    obtain ⟨short, -⟩ | ⟨-, same⟩ := repartition_cases held index geometry
    · have single := eq_singleton_of_mem (tidy.mem_listed held covers) short
      rw [single, List.mem_singleton] at listed
      exact absurd listed differs
    · rw [same]
      refine ⟨entry.without index, List.mem_append_left _ ?_, contains_without.2 ⟨listed, differs⟩, has⟩
      exact List.mem_set (List.getElem?_eq_some_iff.1 held).1 _
  · have still (changed : PartitionEntry) : own ∈ entries.set position changed :=
      List.mem_of_getElem? ((List.getElem?_set_ne (Ne.symm shared)).trans here)
    refine ⟨own, ?_, is.covers, has⟩
    obtain ⟨-, same⟩ | ⟨-, same⟩ := repartition_cases held index geometry
    · rw [same]
      exact still _
    · rw [same]
      exact List.mem_append_left _ (still _)

namespace Partition

variable {partition : Partition}

def ListsOnce (partition : Partition) : Prop :=
  ∀ entries, partition.current? = some entries → (listing entries).Nodup

def IsTidy (partition : Partition) : Prop :=
  ∀ entries, partition.current? = some entries → AreTidy entries

def Suits (partition : Partition) (index : UInt32) (geometry : Geometry) : Prop :=
  ∃ entries, partition.current? = some entries ∧ Mig.Suits entries index geometry

-- An entry without devices stands for all of them, so with one device at least no entry is without.
theorem isTidy_expand {count : Nat} (some_device : count ≠ 0)
    (once : (partition.expand count).ListsOnce) : (partition.expand count).IsTidy := by
  intro entries inForce
  refine ⟨isExplicit_expand partition count entries inForce, once entries inForce, ?_⟩
  have below : indicesBelow count ≠ [] := by
    simpa [indicesBelow] using some_device
  rw [current?, expand, Dictionary.get?_map] at inForce
  obtain ⟨old, -, rfl⟩ := Option.map_eq_some_iff.1 inForce
  refine List.forall_mem_map.2 fun entry _ => ?_
  show (entry.devices.expand count).listed ≠ []
  cases entry.devices with
  | all => exact below
  | indices list =>
    cases list with
    | nil => exact below
    | cons first rest => exact List.cons_ne_nil first rest

end Partition

end GpuShare.Mig
