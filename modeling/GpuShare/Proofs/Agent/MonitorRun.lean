import GpuShare.Proofs.Traversal
import GpuShare.Proofs.Agent.MonitorRound

/-!
Runs of the monitor. Between two rounds others may do what they like, except that they do not shorten files that
are mapped: nothing can be read from a mapping beyond the end of its file. Every round of such a run writes all or
nothing.
-/

set_option autoImplicit false

namespace GpuShare.Agent

open Feedback GpuShare.Path Lister

namespace Monitor

variable {monitor : Monitor} {world : World} {paths : List Path}

/-- What a run of the monitor can come to: rounds, between which others do what they like, except that they
do not shorten files that are mapped. -/
inductive Reached (lister : Lister) : Monitor → World → Prop where
  | start (interval : Nat) (world : World) : Reached lister { lister := lister, interval := interval } world
  | round {monitor : Monitor} {world : World} : Reached lister monitor world → monitor.failure = none →
      Reached lister
        { (monitor.round world).2.1 with
          failure := (monitor.round world).1
          due := (monitor.round world).2.1.due + (monitor.round world).2.1.interval }
        (monitor.round world).2.2
  | others {monitor : Monitor} {world : World} (after : World) : Reached lister monitor world →
      (∀ content ∈ monitor.mapped.contents,
        Region.Layout.size ≤ (after.disk.bytes content).size) →
      Reached lister monitor after

theorem Reached.orderly {lister : Lister} (reached : Reached lister monitor world) :
    IsOrderly monitor.mapped world.disk := by
  induction reached with
  | start interval world => exact ⟨List.Pairwise.nil, nofun⟩
  | @round monitor world reached running ih =>
    exact orderly_round monitor world ih
  | others after reached whole ih => exact ⟨ih.inOrder, whole⟩

-- What the monitor's own loop comes to is reached.
theorem Reached.runBefore {lister : Lister} (reached : Reached lister monitor world) (time fuel : Nat) :
    Reached lister (Monitor.runBefore time fuel monitor world).1
      (Monitor.runBefore time fuel monitor world).2 := by
  induction fuel generalizing monitor world with
  | zero => exact reached
  | succ fuel ih =>
    rw [Monitor.runBefore]
    split
    · next going =>
      have next := reached.round (by simpa using going.1)
      generalize monitor.round world = outcome at next ⊢
      obtain ⟨failure, monitor, world⟩ := outcome
      exact ih next
    · exact reached

theorem Reached.lister_eq {lister : Lister} (reached : Reached lister monitor world) :
    monitor.lister = lister := by
  induction reached with
  | start interval world => rfl
  | @round monitor world reached running ih => exact (round_lister monitor world).trans ih
  | others after reached whole ih => exact ih

-- A round, and then what others do before the next one.
theorem Reached.next {lister : Lister} (reached : Reached lister monitor world)
    (running : monitor.failure = none) (after : World)
    (whole : ∀ content ∈ (monitor.mappedAfter world).contents,
      Region.Layout.size ≤ (after.disk.bytes content).size) :
    ∃ next, Reached lister next after ∧ next.failure = (monitor.round world).1 ∧
      next.mapped = monitor.mappedAfter world :=
  ⟨_, (reached.round running).others after whole, rfl, rfl⟩

-- The first round, when every file that is found can be mapped.
theorem WritesAllOrNothing.opens (all : WritesAllOrNothing monitor world) (fresh : monitor.mapped = [])
    (found : monitor.found world = .ok paths)
    (maps : ∀ path ∈ paths, ∃ content, World.mapRegion (monitor.looked world).disk path = .ok content) :
    (monitor.round world).1 = none ∧ ∀ entry, entry ∈ monitor.mappedAfter world ↔
      entry.1 ∈ paths ∧ World.mapRegion (monitor.looked world).disk entry.1 = .ok entry.2 := by
  have accepted : monitor.firstRefused world paths = none := by
    refine List.find?_eq_none.2 fun path member => ?_
    obtain ⟨content, here⟩ := maps path member
    rw [refuses_eq_false (fun reason refused => ?_)]
    · exact Bool.false_ne_true
    · rw [here] at refused
      cases refused
  have entries := (all.mapped paths found accepted).2
  have mapped : ∀ entry, entry ∈ monitor.mappedAfter world ↔
      entry.1 ∈ paths ∧ World.mapRegion (monitor.looked world).disk entry.1 = .ok entry.2 := by
    intro entry
    rw [entries, fresh]
    simp [Mapped.contains]
  refine ⟨(all.ticked paths found accepted ?_).1, mapped⟩
  refine List.find?_eq_none.2 fun entry member => ?_
  have sound := (isSound_of_mapRegion ((mapped entry).1 member).2).2
  simpa [isBroken] using sound.2

/-- Every round of a run writes by a full tick over all mapped regions, or not at all. -/
theorem rounds_write_all_or_nothing {lister : Lister} (reached : Reached lister monitor world) :
    WritesAllOrNothing monitor world :=
  writesAllOrNothing reached.orderly

/-! ## A directory that cannot be read -/

def alone : Lister := ⟨⟨"/containers"⟩, "node-a", false⟩

def beginning : Monitor := { lister := alone, interval := 5000 }

def regionFile : Path := ⟨"/containers/uid-a_main/region.cache"⟩

def opened : World :=
  { disk := ⟨[(["containers"], .directory Disk.defaultMode),
      (["containers", "uid-a_main"], .directory Disk.defaultMode),
      (["containers", "uid-a_main", "region.cache"], .file 0)],
    #[Region.zeros Region.Layout.size]⟩ }

/-- A region that counts more devices than it has slots. -/
def overwritten : ByteArray :=
  Region.putWord64 (Region.zeros Region.Layout.size) Region.Layout.deviceCount 99

/-- The region was overwritten, and a file stands in place of the containers' directory. -/
def replaced : World :=
  { disk := ⟨[(["containers"], .file 1)], #[overwritten, .empty]⟩ }

def unlinked : World :=
  { disk := ⟨[(["containers"], .directory Disk.defaultMode),
      (["containers", "uid-a_main"], .directory Disk.defaultMode)], #[overwritten]⟩ }

theorem isSound_opened : IsSound opened.disk 0 := by
  have size := Region.size_zeros Region.Layout.size
  refine ⟨Nat.le_of_eq size.symm, ?_⟩
  show (Region.view (Region.zeros Region.Layout.size)).HasValidHeader
  rw [Region.view_of_fits (Nat.le_of_eq size.symm)]
  unfold Region.HasValidHeader Region.word64 Region.int32 Region.word32
  rw [Region.bytesAt_zeros, Region.bytesAt_zeros]
  decide

theorem size_overwritten : overwritten.size = Region.Layout.size :=
  (Region.size_putBytes ..).trans (Region.size_zeros _)

theorem not_hasValidHeader_overwritten : ¬ (Region.view overwritten).HasValidHeader := by
  have fits : Region.Layout.deviceCount + 8 ≤ (Region.zeros Region.Layout.size).size := by
    rw [Region.size_zeros]
    decide
  rw [Region.view_of_fits (Nat.le_of_eq size_overwritten.symm)]
  rintro ⟨few, -⟩
  have count : Region.word64 overwritten Region.Layout.deviceCount = 99 :=
    Region.word64_putWord64 99 fits
  dsimp only at few
  rw [count] at few
  exact absurd few (by decide)

-- The first round maps the region, and goes on.
theorem WritesAllOrNothing.beginning_opened (all : WritesAllOrNothing beginning opened) :
    (beginning.round opened).1 = none ∧
      ∀ entry, entry ∈ beginning.mappedAfter opened ↔ entry = (regionFile, 0) := by
  have found : beginning.found opened = .ok [regionFile] := ok_of_toOption (by decide +kernel)
  have leads : (beginning.looked opened).disk.content? regionFile = .ok 0 :=
    ok_of_toOption (by decide +kernel)
  have sound : IsSound (beginning.looked opened).disk 0 := by
    rw [IsSound, Disk.bytes, all.contents]
    exact isSound_opened
  have maps := mapRegion_of_isSound leads sound
  have one : ∀ path ∈ [regionFile],
      ∃ content, World.mapRegion (beginning.looked opened).disk path = .ok content := by
    intro path member
    obtain rfl := List.mem_singleton.1 member
    exact ⟨0, maps⟩
  obtain ⟨goesOn, entries⟩ := all.opens rfl found one
  refine ⟨goesOn, fun entry => (entries entry).trans ⟨?_, ?_⟩⟩
  · rintro ⟨member, mapped⟩
    have is : entry.1 = regionFile := List.mem_singleton.1 member
    rw [is, maps] at mapped
    exact Prod.ext is (Except.ok.inj mapped).symm
  · rintro rfl
    exact ⟨List.mem_singleton_self _, maps⟩

theorem rounds_write_all_or_nothing_opened : Reached alone beginning opened ∧
    WritesAllOrNothing beginning opened ∧ (beginning.round opened).1 = none ∧
      (regionFile, 0) ∈ beginning.mappedAfter opened := by
  have reached : Reached alone beginning opened := .start 5000 opened
  have all := rounds_write_all_or_nothing reached
  obtain ⟨goesOn, entries⟩ := all.beginning_opened
  exact ⟨reached, all, goesOn, (entries _).2 rfl⟩

-- Others overwrite the region after the first round has mapped it.
theorem reached_overwritten (world : World) (overwrites : world.disk.bytes 0 = overwritten) :
    ∃ monitor, Reached alone monitor world ∧ monitor.failure = none ∧
      (regionFile, 0) ∈ monitor.mapped := by
  have start : Reached alone beginning opened := .start 5000 opened
  obtain ⟨goesOn, entries⟩ := (writesAllOrNothing start.orderly).beginning_opened
  obtain ⟨monitor, reached, failure, mapped⟩ := start.next rfl world fun content member => by
    obtain ⟨entry, held, rfl⟩ := List.mem_map.1 member
    obtain rfl := (entries entry).1 held
    exact Nat.le_of_eq (overwrites.symm ▸ size_overwritten.symm)
  exact ⟨monitor, reached, failure.trans goesOn, mapped ▸ (entries _).2 rfl⟩

/-- A round of a run goes on although the header of a mapped region does not fit the layout. -/
structure Overlooks (monitor : Monitor) (world : World) (entry : Path × Nat) : Prop where
  reached : Reached alone monitor world
  running : monitor.failure = none
  mapped : entry ∈ monitor.mapped
  broken : ¬ (Region.view (world.disk.bytes entry.2)).HasValidHeader
  goesOn : (monitor.round world).1 = none

-- A round whose listing fails looks at no header, and one that lists the files looks at none of a region whose
-- file is gone.
theorem goes_on_with_broken_region :
    (∃ monitor world entry cause, Overlooks monitor world entry ∧ monitor.found world = .error cause) ∧
    (∃ monitor world entry, Overlooks monitor world entry ∧ monitor.found world = .ok [] ∧
      entry ∉ monitor.mappedAfter world) := by
  constructor
  · obtain ⟨monitor, reached, running, mapped⟩ := reached_overwritten replaced rfl
    have unread : (alone.search.run World.serve replaced).1.toOption = none := by decide +kernel
    cases found : (alone.search.run World.serve replaced).1 with
    | ok paths =>
      rw [found] at unread
      cases unread
    | error cause =>
      rw [← reached.lister_eq] at found
      have round := (writesAllOrNothing reached.orderly).unlisted cause found
      exact ⟨monitor, replaced, (regionFile, 0), cause,
        ⟨reached, running, mapped, not_hasValidHeader_overwritten, by rw [round]⟩, found⟩
  · obtain ⟨monitor, reached, running, mapped⟩ := reached_overwritten unlinked rfl
    have found : (alone.search.run World.serve unlinked).1 = .ok [] := ok_of_toOption (by decide +kernel)
    rw [← reached.lister_eq] at found
    have all := writesAllOrNothing reached.orderly
    have gone : ∀ entry, entry ∉ monitor.mappedAfter unlinked := fun entry held =>
      List.not_mem_nil (((all.mapped [] found rfl).2 entry).1 held).1
    have sound : monitor.firstBroken unlinked = none :=
      List.find?_eq_none.2 fun entry held => absurd held (gone entry)
    exact ⟨monitor, unlinked, (regionFile, 0),
      ⟨reached, running, mapped, not_hasValidHeader_overwritten, (all.ticked [] found rfl sound).1⟩,
      found, gone _⟩

end Monitor

end GpuShare.Agent
