import GpuShare.Proofs.Mig.Listing

/-!
What the entries say of one device. A device may be in several entries, and several times in one; its share is
what each entry that covers it says, in order. Main statement: giving a device its geometry leaves the shares of
all others as they are.
-/

set_option autoImplicit false

namespace GpuShare.Mig

variable {entries : List PartitionEntry} {entry changed : PartitionEntry} {position : Nat}
  {index other : UInt32} {geometry : Geometry}

/-- Entry by entry, what is said of a device: whether it is sliced, and into which instances. -/
def shares (entries : List PartitionEntry) (index : UInt32) : List (Bool × Dictionary Int32) :=
  (entries.filter (·.devices.contains index)).map fun entry => (entry.enabled, entry.instances)

theorem shares_append (first rest : List PartitionEntry) (index : UInt32) :
    shares (first ++ rest) index = shares first index ++ shares rest index := by
  simp [shares]

theorem shares_of_not_contains (apart : ¬ entry.devices.contains other = true) : shares [entry] other = [] := by
  simp [shares, apart]

theorem shares_set (held : entries[position]? = some entry) (same : shares [changed] other = shares [entry] other) :
    shares (entries.set position changed) other = shares entries other := by
  conv_rhs => rw [eq_take_append held]
  rw [set_eq_take_append held, List.append_cons, List.append_cons _ entry]
  simp only [shares_append, same]

-- The entry of a geometry is its device's alone.
theorem shares_entry (differs : other ≠ index) : shares [geometry.entry index] other = [] :=
  shares_of_not_contains fun covers => differs (contains_entry_iff.1 covers)

-- Without one device, an entry says of the others what it said.
theorem shares_without (explicit : entry.devices ≠ .all) (differs : other ≠ index) :
    shares [entry.without index] other = shares [entry] other := by
  have still : (entry.without index).devices.contains other = entry.devices.contains other := by
    rw [Bool.eq_iff_iff, contains_without]
    exact ⟨fun ⟨listed, _⟩ => Selector.contains_of_mem listed,
      fun covers => ⟨Selector.mem_listed explicit covers, differs⟩⟩
  cases covers : entry.devices.contains other with
  | true =>
    rw [covers] at still
    simp only [shares, List.filter_cons, still, covers]
    rfl
  | false =>
    rw [covers] at still
    simp [shares, still, covers]

/-- The device is moved out of its entry, and each other device is covered by the same entries as before. -/
theorem shares_repartition (explicit : AreExplicit entries) (held : entries[position]? = some entry)
    (covers : entry.devices.contains index = true) (geometry : Geometry) (differs : other ≠ index) :
    shares (repartition entries position index geometry) other = shares entries other := by
  have names : entry.devices ≠ .all := explicit entry (List.mem_of_getElem? held)
  obtain ⟨short, same⟩ | ⟨-, same⟩ := repartition_cases held index geometry
  · have alone : shares [entry] other = [] := by
      apply shares_of_not_contains
      intro also
      have listed := Selector.mem_listed names also
      rw [eq_singleton_of_mem (Selector.mem_listed names covers) short, List.mem_singleton] at listed
      exact differs listed
    rw [same]
    apply shares_set held
    rw [shares_entry differs, alone]
  · rw [same, shares_append, shares_entry differs, List.append_nil]
    exact shares_set held (shares_without names differs)

namespace Partition

variable {partition : Partition}

def shares? (partition : Partition) (index : UInt32) : Option (List (Bool × Dictionary Int32)) :=
  partition.current?.map (shares · index)

end Partition

end GpuShare.Mig
