import GpuShare.Proofs.Agent.Monitored
import GpuShare.Proofs.Run

/-!
Mapped regions and the files at their paths. A lister knows its mappings by their paths, and maps a path once: a
mapping reads the file that was there when it was made, as long as updates find any file there. So mappings are
current as long as no mapped path leads to another file.
-/

set_option autoImplicit false

namespace GpuShare.Agent.Lister

open Program GpuShare.Path

structure Holding where
  world : World
  mapped : Mapped

namespace Holding

variable {lister : Lister} {start : World} {holding after : Holding} {actor : Option Unit} {path : Path}
  {trace later earlier : List (Transition Holding Unit)} {transition : Transition Holding Unit}

def outcome (lister : Lister) (holding : Holding) : Except ListerError Unit :=
  ((lister.update holding.mapped).run World.serve holding.world).1.1

def updated (lister : Lister) (holding : Holding) : Holding where
  world := ((lister.update holding.mapped).run World.serve holding.world).2
  mapped := ((lister.update holding.mapped).run World.serve holding.world).1.2

theorem updated_of_run {ended : Except ListerError Unit} {now : Mapped} {next : World}
    (run : (lister.update holding.mapped).run World.serve holding.world = ((ended, now), next)) :
    holding.updated lister = ⟨next, now⟩ ∧ holding.outcome lister = ended := by
  rw [updated, outcome, run]
  exact ⟨rfl, rfl⟩

inductive Step (lister : Lister) (holding : Holding) : Option Unit → Holding → Prop where
  | others (world : World) : Step lister holding none ⟨world, holding.mapped⟩
  | update : Step lister holding (some ()) (holding.updated lister)

theorem eq_updated_of_step (made : Step lister holding (some ()) after) : after = holding.updated lister := by
  cases made
  rfl

/-- Every mapped region is in the file that its path leads to now. -/
def IsCurrent (holding : Holding) : Prop :=
  ∀ entry ∈ holding.mapped, holding.world.disk.content? entry.1 = .ok entry.2

/-- What a mapped path led to in the step that mapped it, the latest before which it was not mapped. -/
def openedAs (path : Path) : List (Transition Holding Unit) → Except FileError Nat
  | [] => .error .notFound
  | transition :: earlier =>
    if transition.before.mapped.contains path then openedAs path earlier
    else transition.after.world.disk.content? path

structure IsTraced (trace : List (Transition Holding Unit)) (holding : Holding) : Prop where
  inOrder : InOrder holding.mapped.paths
  opened : ∀ entry ∈ holding.mapped, openedAs entry.1 trace = .ok entry.2

structure Remaps (before after : Holding) : Prop where
  inOrder : InOrder after.mapped.paths
  entries : ∀ entry ∈ after.mapped, entry ∈ before.mapped ∨
    before.mapped.contains entry.1 = false ∧ after.world.disk.content? entry.1 = .ok entry.2

theorem remaps_updated (lister : Lister) (inOrder : InOrder holding.mapped.paths) :
    Remaps holding (holding.updated lister) := by
  generalize search : lister.search.run World.serve holding.world = result
  obtain ⟨found, looked⟩ := result
  have updates := updates lister inOrder search
  cases found with
  | error cause =>
    rw [(updated_of_run (updates.failed cause rfl)).1]
    exact ⟨inOrder, fun entry => .inl⟩
  | ok paths =>
    obtain ⟨outcome, now, run, maps⟩ := updates.mapped paths rfl
    rw [(updated_of_run run).1]
    refine ⟨maps.inOrder, fun entry member => ?_⟩
    obtain old | ⟨found, isNew, mapped⟩ := maps.new entry member
    · exact .inl (List.mem_filter.1 old).1
    · rw [Monitor.contains_stillThere found] at isNew
      exact .inr ⟨isNew, (isSound_of_mapRegion mapped).1⟩

theorem openedAs_of_contains (held : transition.before.mapped.contains path = true) :
    openedAs path (transition :: earlier) = openedAs path earlier := if_pos held

theorem openedAs_of_new (isNew : transition.before.mapped.contains path = false) :
    openedAs path (transition :: earlier) = transition.after.world.disk.content? path := by
  rw [openedAs, if_neg (by simp [isNew])]

theorem Remaps.isTraced (remaps : Remaps holding after) (traced : IsTraced trace holding) :
    IsTraced (⟨holding, actor, after⟩ :: trace) after := by
  refine ⟨remaps.inOrder, fun entry member => ?_⟩
  obtain old | ⟨isNew, leads⟩ := remaps.entries entry member
  · rw [openedAs_of_contains (Mapped.contains_of_mem old)]
    exact traced.opened entry old
  · rw [openedAs_of_new isNew]
    exact leads

theorem isTraced_step (traced : IsTraced trace holding) (made : Step lister holding actor after) :
    IsTraced (⟨holding, actor, after⟩ :: trace) after := by
  cases made with
  | others world =>
    have kept : Remaps holding ⟨world, holding.mapped⟩ := ⟨traced.inOrder, fun _ => .inl⟩
    exact kept.isTraced traced
  | update => exact (remaps_updated lister traced.inOrder).isTraced traced

theorem isTraced_run (run : Run (Step lister) ⟨start, []⟩ trace holding) : IsTraced trace holding := by
  induction run with
  | start => exact ⟨List.Pairwise.nil, nofun⟩
  | step _ made ih => exact isTraced_step ih made

structure ReadsAsOpened (earlier : List (Transition Holding Unit)) (transition : Transition Holding Unit) :
    Prop where
  opened : ∀ entry ∈ transition.after.mapped, openedAs entry.1 (transition :: earlier) = .ok entry.2
  -- What is mapped just now is current.
  new : ∀ entry ∈ transition.after.mapped, transition.before.mapped.contains entry.1 = false →
    transition.after.world.disk.content? entry.1 = .ok entry.2
  current : transition.after.IsCurrent ↔
    ∀ path, transition.before.mapped.contains path = true → transition.after.mapped.contains path = true →
      transition.after.world.disk.content? path = openedAs path earlier

theorem IsTraced.current_iff (traced : IsTraced (transition :: earlier) transition.after) :
    transition.after.IsCurrent ↔
      ∀ path, transition.before.mapped.contains path = true → transition.after.mapped.contains path = true →
        transition.after.world.disk.content? path = openedAs path earlier := by
  constructor
  · intro current path before now
    obtain ⟨entry, member, rfl⟩ := List.mem_map.1 (Mapped.contains_iff.1 now)
    rw [current entry member, ← traced.opened entry member, openedAs_of_contains before]
  · intro same entry member
    have opened := traced.opened entry member
    cases held : transition.before.mapped.contains entry.1 with
    | true =>
      rw [same entry.1 held (Mapped.contains_of_mem member), ← openedAs_of_contains held]
      exact opened
    | false => exact (openedAs_of_new held).symm.trans opened

/-- After every update, a mapped region reads the file that its path led to when it was mapped. This is the file at
its path now for all of them exactly if no path that was kept has come to lead to another file since. -/
theorem reads_as_opened (run : Run (Step lister) ⟨start, []⟩ trace holding)
    (split : trace = later ++ transition :: earlier) (updates : transition.actor = some ()) :
    transition.after = transition.before.updated lister ∧ ReadsAsOpened earlier transition := by
  obtain ⟨before, made⟩ := run.upTo split
  obtain ⟨first, actor, after⟩ := transition
  obtain rfl : actor = some () := updates
  have traced := isTraced_step (isTraced_run before) made
  refine ⟨eq_updated_of_step made, traced.opened, fun entry member isNew => ?_, traced.current_iff⟩
  rw [← traced.opened entry member, openedAs_of_new isNew]

/-! ## A file that takes the place of another -/

open Monitor (alone opened regionFile)

def launched : ByteArray := Region.putInt32 (Region.zeros Region.Layout.size) Region.Layout.recentKernel 9

def remade (world : World) : World :=
  { world with disk := ((world.disk.remove regionFile).writeFile regionFile launched).2 }

theorem recentKernel_zeros : (Region.view (Region.zeros Region.Layout.size)).recentKernel = 0 := by
  rw [Region.view_of_fits (Nat.le_of_eq (Region.size_zeros _).symm), Region.recentKernel, Region.int32, Region.word32,
    Region.bytesAt_zeros]
  rfl

theorem recentKernel_launched : (Region.view launched).recentKernel = 9 := by
  have size : launched.size = Region.Layout.size := (Region.size_putBytes ..).trans (Region.size_zeros _)
  have fits : Region.Layout.recentKernel + 4 ≤ (Region.zeros Region.Layout.size).size := by
    rw [Region.size_zeros]
    decide
  rw [Region.view_of_fits (Nat.le_of_eq size.symm)]
  exact Region.int32_putInt32 9 fits

def first : Holding := ⟨opened, []⟩

def second : Holding := first.updated alone

def third : Holding := ⟨remade second.world, second.mapped⟩

def fourth : Holding := third.updated alone

def replacing : List (Transition Holding Unit) :=
  [⟨third, some (), fourth⟩, ⟨second, none, third⟩, ⟨first, some (), second⟩]

theorem run_replacing : Run (Step alone) first replacing fourth :=
  ((Run.start.step .update).step (.others (remade second.world))).step .update

def looked : World := (alone.search.run World.serve opened).2

theorem second_eq : second = ⟨looked, [(regionFile, 0)]⟩ := by
  have found : (alone.search.run World.serve opened).1 = .ok [regionFile] := ok_of_toOption (by decide +kernel)
  have leads : looked.disk.content? regionFile = .ok 0 := ok_of_toOption (by decide +kernel)
  have ran : (alone.update first.mapped).run World.serve first.world = ((.ok (), [(regionFile, 0)]), looked) :=
    update_of_search found leads Monitor.isSound_opened
  exact (updated_of_run ran).1

theorem third_eq : third = ⟨remade looked, [(regionFile, 0)]⟩ := by
  rw [third, second_eq]

def lookedAgain : World := (alone.search.run World.serve (remade looked)).2

theorem ran_third : (alone.update third.mapped).run World.serve third.world =
    ((.ok (), [(regionFile, 0)]), lookedAgain) := by
  have found : (alone.search.run World.serve (remade looked)).1 = .ok [regionFile] :=
    ok_of_toOption (by decide +kernel)
  have searched : alone.search.run World.serve (remade looked) = (.ok [regionFile], lookedAgain) :=
    Prod.ext found rfl
  have kept : stillThere [regionFile] [(regionFile, 0)] = [(regionFile, 0)] := by decide
  have held : Mapped.contains [(regionFile, 0)] regionFile = true := by decide
  rw [third_eq, run_update searched, kept, mapNew, if_pos held]
  rfl

theorem fourth_eq : fourth = ⟨lookedAgain, [(regionFile, 0)]⟩ := (updated_of_run ran_third).1

theorem contents_lookedAgain :
    lookedAgain.disk.contents = #[Region.zeros Region.Layout.size, launched] := by
  have searched : alone.search.run World.serve (remade looked) = (_, lookedAgain) := rfl
  have before : alone.search.run World.serve opened = (_, looked) := rfl
  have free : (looked.disk.remove regionFile).resolve true regionFile = .ok (regionFile.components, none) :=
    ok_of_toOption (by decide +kernel)
  have removed : (looked.disk.remove regionFile).contents = looked.disk.contents := by
    rw [Disk.remove]
    split <;> rfl
  have written : (remade looked).disk.contents = (looked.disk.remove regionFile).contents.push launched := by
    rw [remade, Disk.writeFile, free]
    rfl
  rw [contents_of_search searched, written, removed, contents_of_search before]
  rfl

/-- Every update of the run reads the files that were opened. -/
theorem reads_as_opened_replacing : Run (Step alone) ⟨opened, []⟩ replacing fourth ∧
    ReadsAsOpened [⟨second, none, third⟩, ⟨first, some (), second⟩] ⟨third, some (), fourth⟩ ∧
    (regionFile, 0) ∈ fourth.mapped := by
  have reads := reads_as_opened run_replacing (List.nil_append replacing).symm rfl
  refine ⟨run_replacing, reads.2, ?_⟩
  rw [fourth_eq]
  exact List.mem_singleton_self _

-- The container that was removed is read, and the one in its place is not.
theorem keeps_reading_removed_file : Run (Step alone) ⟨opened, []⟩ replacing fourth ∧
    third.outcome alone = .ok () ∧ (regionFile, 0) ∈ fourth.mapped ∧
    fourth.world.disk.content? regionFile = .ok 1 ∧
    (Region.view (fourth.world.disk.bytes 0)).recentKernel = 0 ∧
    (Region.view (fourth.world.disk.bytes 1)).recentKernel = 9 ∧ ¬ fourth.IsCurrent := by
  have leads : lookedAgain.disk.content? regionFile = .ok 1 := ok_of_toOption (by decide +kernel)
  have old : lookedAgain.disk.bytes 0 = Region.zeros Region.Layout.size := by
    simp [Disk.bytes, contents_lookedAgain]
  have new : lookedAgain.disk.bytes 1 = launched := by
    simp [Disk.bytes, contents_lookedAgain]
  rw [fourth_eq]
  refine ⟨?_, (updated_of_run ran_third).2, List.mem_singleton_self _, leads, ?_, ?_, fun current => ?_⟩
  · rw [← fourth_eq]
    exact run_replacing
  · rw [old]
    exact recentKernel_zeros
  · rw [new]
    exact recentKernel_launched
  · have other := current _ (List.mem_singleton_self _)
    cases leads.symm.trans other

end Holding

end GpuShare.Agent.Lister
