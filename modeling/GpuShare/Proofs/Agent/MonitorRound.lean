import GpuShare.Proofs.Agent.MappedTick

/-!
Rounds of the monitor. All headers are checked before anything is written, so a round either writes by a full
tick over all mapped regions, or nothing. A directory that cannot be read is noticed before any header.
-/

set_option autoImplicit false

namespace GpuShare.Agent

open Feedback GpuShare.Path Lister

namespace Monitor

variable {monitor : Monitor} {world : World} {paths : List Path} {path : Path}

def found (monitor : Monitor) (world : World) : Except ListerError (List Path) :=
  (monitor.lister.search.run World.serve world).1

def looked (monitor : Monitor) (world : World) : World :=
  (monitor.lister.search.run World.serve world).2

/-- The first file that was found, is not mapped yet, and has a header that does not fit the layout. -/
def firstRefused (monitor : Monitor) (world : World) (paths : List Path) : Option Path :=
  paths.find? (refuses (monitor.looked world).disk monitor.mapped)

def mappedAfter (monitor : Monitor) (world : World) : Mapped := (monitor.round world).2.1.mapped

def firstBroken (monitor : Monitor) (world : World) : Option (Path × Nat) :=
  (monitor.mappedAfter world).find? (isBroken (monitor.looked world).disk)

structure EndsWith (monitor : Monitor) (world : World) (error : MonitorError) : Prop where
  failure : (monitor.round world).1 = some error
  fatal : error.severity = .fatal
  contents : (monitor.round world).2.2.disk.contents = world.disk.contents

/-- A round does what the controller does in one tick over all mapped regions. -/
structure Ticks (mapped : Mapped) (before after : Disk) : Prop where
  sound : ∀ content ∈ mapped.contents, IsSound before content
  tickIn : ∃ report, Feedback.tickIn mapped.places before = (report, after) ∧ report.skipped = 0 ∧
    report.observed = mapped.length
  writes : WritesSignals mapped.contents before after
  tick : mapped.contents.Nodup → mapped.regions after = (Feedback.tick (mapped.regions before)).2

structure WritesAllOrNothing (monitor : Monitor) (world : World) : Prop where
  -- Looking for region files writes to none of them.
  contents : (monitor.looked world).disk.contents = world.disk.contents
  unlisted : ∀ cause, monitor.found world = .error cause →
    monitor.round world = (none, monitor, monitor.looked world)
  inOrder : ∀ paths, monitor.found world = .ok paths → InOrder paths
  refused : ∀ paths path, monitor.found world = .ok paths →
    monitor.firstRefused world paths = some path → ∃ reason,
      World.mapRegion (monitor.looked world).disk path = .error (.layoutViolation reason) ∧
        EndsWith monitor world (.layout path.text (.error (.layout path.text reason)))
  mapped : ∀ paths, monitor.found world = .ok paths → monitor.firstRefused world paths = none →
    InOrder (monitor.mappedAfter world).paths ∧ ∀ entry, entry ∈ monitor.mappedAfter world ↔
      entry.1 ∈ paths ∧ (entry ∈ monitor.mapped ∨ monitor.mapped.contains entry.1 = false ∧
        World.mapRegion (monitor.looked world).disk entry.1 = .ok entry.2)
  broken : ∀ paths entry, monitor.found world = .ok paths → monitor.firstRefused world paths = none →
    monitor.firstBroken world = some entry → ∃ reason,
      (Region.view ((monitor.looked world).disk.bytes entry.2)).validate =
          .error (.layoutViolation reason) ∧
        EndsWith monitor world (.layout entry.1.text (.ok reason))
  ticked : ∀ paths, monitor.found world = .ok paths → monitor.firstRefused world paths = none →
    monitor.firstBroken world = none → (monitor.round world).1 = none ∧
      Ticks (monitor.mappedAfter world) (monitor.looked world).disk (monitor.round world).2.2.disk

/-- Mapped regions in path order, each in a file that is as long as a region. -/
structure IsOrderly (mapped : Mapped) (disk : Disk) : Prop where
  inOrder : InOrder mapped.paths
  whole : ∀ content ∈ mapped.contents, Region.Layout.size ≤ (disk.bytes content).size

theorem contains_stillThere (member : path ∈ paths) (mapped : Mapped) :
    (stillThere paths mapped).contains path = mapped.contains path := by
  rw [Bool.eq_iff_iff, Mapped.contains_iff, Mapped.contains_iff]
  simp only [Mapped.paths, stillThere, List.mem_map, List.mem_filter]
  grind

theorem find?_refuses_stillThere (disk : Disk) (paths : List Path) (mapped : Mapped) :
    paths.find? (refuses disk (stillThere paths mapped)) = paths.find? (refuses disk mapped) :=
  List.find?_congr fun path member => by rw [refuses, refuses, contains_stillThere member]

section Outcomes

variable {next : Monitor} {after : World}

theorem refresh_eq {outcome : Except ListerError Unit} {mapped : Mapped}
    (ran : (monitor.lister.update monitor.mapped).run World.serve world = ((outcome, mapped), after)) :
    monitor.refresh world = (outcome.mapError .ofLister, { monitor with mapped := mapped }, after) := by
  rw [refresh, ran]
  cases outcome <;> rfl

theorem round_failed {error : MonitorError} (refreshed : monitor.refresh world = (.error error, next, after)) :
    monitor.round world = (if error.severity = .fatal then some error else none, next, after) := by
  rw [round, refreshed]

theorem round_broken {entry : Path × Nat} (refreshed : monitor.refresh world = (.ok (), next, after))
    (first : next.mapped.find? (isBroken after.disk) = some entry) : ∃ reason,
    (Region.view (after.disk.bytes entry.2)).validate = .error (.layoutViolation reason) ∧
      monitor.round world = (some (.layout entry.1.text (.ok reason)), next, after) := by
  obtain ⟨reason, refused, violation⟩ := firstViolation_of_some first
  refine ⟨reason, refused, ?_⟩
  rw [round, refreshed]
  simp only [Monitor.tick, tickMapped, violation]

theorem round_ticked (refreshed : monitor.refresh world = (.ok (), next, after))
    (sound : next.mapped.find? (isBroken after.disk) = none) :
    monitor.round world =
      (none, next, { after with disk := (Feedback.tickIn next.mapped.places after.disk).2 }) := by
  rw [round, refreshed]
  simp only [Monitor.tick, tickMapped, firstViolation_of_sound sound]
  rfl

theorem mappedAfter_eq (refreshed : monitor.refresh world = (.ok (), next, after)) :
    monitor.mappedAfter world = next.mapped := by
  cases first : next.mapped.find? (isBroken after.disk) with
  | none => rw [mappedAfter, round_ticked refreshed first]
  | some entry =>
    obtain ⟨reason, -, ended⟩ := round_broken refreshed first
    rw [mappedAfter, ended]

end Outcomes

/-- What a round with a listing comes to know: the files that were found, and what became of the mapped
regions when they were mapped. -/
structure Refreshes (monitor : Monitor) (world : World) (paths : List Path)
    (outcome : Except ListerError Unit) (mapped : Mapped) : Prop where
  inOrder : InOrder paths
  maps : MapsNew (monitor.looked world).disk paths (stillThere paths monitor.mapped) outcome mapped
  refreshed : monitor.refresh world =
    (outcome.mapError .ofLister, { monitor with mapped := mapped }, monitor.looked world)

theorem refreshes (orderly : IsOrderly monitor.mapped world.disk) :
    (monitor.looked world).disk.contents = world.disk.contents ∧
      (∀ cause, monitor.found world = .error cause →
        monitor.round world = (none, monitor, monitor.looked world)) ∧
      ∀ paths, monitor.found world = .ok paths →
        ∃ outcome mapped, Refreshes monitor world paths outcome mapped := by
  have search : monitor.lister.search.run World.serve world =
      (monitor.found world, monitor.looked world) := rfl
  have updates := Lister.updates monitor.lister orderly.inOrder search
  refine ⟨updates.contents, fun cause failed => ?_, fun paths found => ?_⟩
  · have listing := updates.listing
    rw [failed] at listing
    obtain rfl : cause = .readDirectory monitor.lister.directory.text := listing
    exact round_failed (refresh_eq (updates.failed _ failed))
  · have listing := updates.listing
    rw [found] at listing
    obtain ⟨outcome, mapped, ran, maps⟩ := updates.mapped paths found
    exact ⟨outcome, mapped, listing, maps, refresh_eq ran⟩

namespace Refreshes

variable {outcome : Except ListerError Unit} {mapped : Mapped}

theorem refused (refreshes : Refreshes monitor world paths outcome mapped)
    (first : monitor.firstRefused world paths = some path) : ∃ reason,
    World.mapRegion (monitor.looked world).disk path = .error (.layoutViolation reason) ∧
      monitor.round world = (some (.layout path.text (.error (.layout path.text reason))),
        { monitor with mapped := mapped }, monitor.looked world) := by
  rw [firstRefused, ← find?_refuses_stillThere] at first
  obtain ⟨reason, refused, rfl⟩ := refreshes.maps.stopped path first
  exact ⟨reason, refused, round_failed refreshes.refreshed⟩

theorem accepted (refreshes : Refreshes monitor world paths outcome mapped)
    (none : monitor.firstRefused world paths = none) :
    monitor.refresh world = (.ok (), { monitor with mapped := mapped }, monitor.looked world) ∧
      ∀ entry, entry ∈ mapped ↔ entry.1 ∈ paths ∧ (entry ∈ monitor.mapped ∨
        monitor.mapped.contains entry.1 = false ∧
          World.mapRegion (monitor.looked world).disk entry.1 = .ok entry.2) := by
  rw [firstRefused, ← find?_refuses_stillThere] at none
  obtain ⟨rfl, all⟩ := refreshes.maps.done none
  refine ⟨refreshes.refreshed, fun entry => ⟨fun member => ?_, ?_⟩⟩
  · rcases refreshes.maps.new entry member with old | ⟨found, isNew, maps⟩
    · obtain ⟨held, found⟩ := List.mem_filter.1 old
      exact ⟨by simpa using found, .inl held⟩
    · rw [contains_stillThere found] at isNew
      exact ⟨found, .inr ⟨isNew, maps⟩⟩
  · rintro ⟨found, held | ⟨isNew, maps⟩⟩
    · exact refreshes.maps.kept entry (List.mem_filter.2 ⟨held, by simpa using found⟩)
    · rw [← contains_stillThere found] at isNew
      exact all entry.1 found entry.2 isNew maps

-- Every mapped region is as long as a region: the old ones were, and the new ones are looked at.
theorem orderly (refreshes : Refreshes monitor world paths outcome mapped)
    (orderly : IsOrderly monitor.mapped world.disk)
    (contents : (monitor.looked world).disk.contents = world.disk.contents) :
    IsOrderly mapped (monitor.looked world).disk := by
  refine ⟨refreshes.maps.inOrder, fun content member => ?_⟩
  obtain ⟨entry, held, rfl⟩ := List.mem_map.1 member
  rcases refreshes.maps.new entry held with old | ⟨-, -, maps⟩
  · have before : entry.2 ∈ monitor.mapped.contents := List.mem_map_of_mem (List.mem_filter.1 old).1
    rw [Disk.bytes, contents]
    exact orderly.whole entry.2 before
  · exact (isSound_of_mapRegion maps).2.1

end Refreshes

theorem sound_of_firstBroken {mapped : Mapped} {disk : Disk} (orderly : IsOrderly mapped disk)
    (none : mapped.find? (isBroken disk) = none) : ∀ content ∈ mapped.contents, IsSound disk content := by
  intro content member
  obtain ⟨entry, held, rfl⟩ := List.mem_map.1 member
  refine ⟨orderly.whole entry.2 member, ?_⟩
  simpa [isBroken] using List.find?_eq_none.1 none entry held

theorem ticks_of_sound {mapped : Mapped} {disk : Disk}
    (sound : ∀ content ∈ mapped.contents, IsSound disk content) :
    Ticks mapped disk (Feedback.tickIn mapped.places disk).2 := by
  obtain ⟨writes, skipped, observed⟩ := tickIn_writesSignals sound
  exact ⟨sound, ⟨_, rfl, skipped, observed⟩, writes,
    fun nodup => congrArg Prod.snd (tickIn_regions nodup sound)⟩

theorem writesAllOrNothing (orderly : IsOrderly monitor.mapped world.disk) :
    WritesAllOrNothing monitor world := by
  obtain ⟨contents, unlisted, listed⟩ := refreshes orderly
  refine ⟨contents, unlisted, fun paths found => ?_, fun paths path found first => ?_,
    fun paths found none => ?_, fun paths entry found none broken => ?_,
    fun paths found none sound => ?_⟩
  all_goals obtain ⟨outcome, mapped, refreshes⟩ := listed paths found
  · exact refreshes.inOrder
  · obtain ⟨reason, refused, ended⟩ := refreshes.refused first
    exact ⟨reason, refused, by rw [ended], rfl, by rw [ended]; exact contents⟩
  all_goals obtain ⟨refreshed, entries⟩ := refreshes.accepted none
  all_goals have mappedIs := mappedAfter_eq refreshed
  · rw [mappedIs]
    exact ⟨refreshes.maps.inOrder, entries⟩
  · rw [firstBroken, mappedIs] at broken
    obtain ⟨reason, refused, ended⟩ := round_broken refreshed broken
    exact ⟨reason, refused, by rw [ended], rfl, by rw [ended]; exact contents⟩
  · rw [firstBroken, mappedIs] at sound
    rw [mappedIs, round_ticked refreshed sound]
    exact ⟨rfl, ticks_of_sound (sound_of_firstBroken (refreshes.orderly orderly contents) sound)⟩

theorem round_lister (monitor : Monitor) (world : World) :
    (monitor.round world).2.1.lister = monitor.lister := by
  unfold round
  generalize refreshed : monitor.refresh world = outcome
  have kept : outcome.2.1.lister = monitor.lister := by
    rw [← refreshed]
    rfl
  obtain ⟨outcome, next, after⟩ := outcome
  cases outcome with
  | error error => exact kept
  | ok done =>
    dsimp only
    split <;> exact kept

theorem orderly_round (monitor : Monitor) (world : World) (orderly : IsOrderly monitor.mapped world.disk) :
    IsOrderly (monitor.mappedAfter world) (monitor.round world).2.2.disk := by
  obtain ⟨contents, unlisted, listed⟩ := refreshes orderly
  cases found : monitor.found world with
  | error cause =>
    rw [mappedAfter, unlisted cause found]
    refine ⟨orderly.inOrder, fun content member => ?_⟩
    rw [Disk.bytes, contents]
    exact orderly.whole content member
  | ok paths =>
    obtain ⟨outcome, mapped, refreshes⟩ := listed paths found
    have kept := refreshes.orderly orderly contents
    cases first : monitor.firstRefused world paths with
    | some path =>
      obtain ⟨reason, -, ended⟩ := refreshes.refused first
      rw [mappedAfter, ended]
      exact kept
    | none =>
      obtain ⟨refreshed, -⟩ := refreshes.accepted first
      rw [mappedAfter_eq refreshed]
      cases broken : mapped.find? (isBroken (monitor.looked world).disk) with
      | some entry =>
        obtain ⟨reason, -, ended⟩ := round_broken refreshed broken
        rw [ended]
        exact kept
      | none =>
        rw [round_ticked refreshed broken]
        have writes := (ticks_of_sound (sound_of_firstBroken kept broken)).writes
        exact ⟨kept.inOrder, fun content member => (writes.sound content member).1⟩

end Monitor

end GpuShare.Agent
