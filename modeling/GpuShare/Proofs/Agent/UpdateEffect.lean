import GpuShare.Proofs.Agent.SearchEffect
import GpuShare.Proofs.Agent.Monitored

/-!
The effect of an update with nobody else around. It takes away the directories of departed pods, and maps the region
files in the others. A second update does the same again; it can only lose mappings of files that the first one found
through a link into a directory which it took away later.
-/

set_option autoImplicit false

namespace GpuShare.Agent.Lister

open Program GpuShare.Path

variable {lister : Lister} {live : Option (List String)} {name : String} {gone : List String}
  {before after : Disk} {root : Location} {path : Path} {world later looked : World} {mapped now : Mapped}
  {outcome : Except ListerError Unit} {paths again : List Path}

/-! ## Mapping again -/

theorem entries_mapNew (found : List Path) (mapped : Mapped) (world : World) :
    ∃ outcome now, (mapNew found mapped).run World.serve world = ((outcome, now), world) ∧
      (∀ entry ∈ mapped, entry ∈ now) ∧
      ∀ entry ∈ now, entry ∈ mapped ∨ World.mapRegion world.disk entry.1 = .ok entry.2 := by
  induction found generalizing mapped with
  | nil => exact ⟨_, _, rfl, fun _ => id, fun _ => .inl⟩
  | cons path found ih =>
    by_cases held : mapped.contains path = true
    · rw [mapNew, if_pos held]
      exact ih mapped
    · rw [run_mapNext held]
      split
      · next content maps =>
        obtain ⟨outcome, now, run, kept, new⟩ := ih (mapped.insert path content)
        refine ⟨outcome, now, run, fun entry old => kept entry (Mapped.mem_insert.2 (.inr old)), fun entry member => ?_⟩
        obtain old | maps := new entry member
        · obtain rfl | old := Mapped.mem_insert.1 old
          · exact .inr maps
          · exact .inl old
        · exact .inr maps
      · exact ⟨_, _, rfl, fun _ => id, fun _ => .inl⟩
      · exact ih mapped

section Pass

variable (run : (mapNew paths mapped).run World.serve world = ((outcome, now), world))

include run

theorem contains_of_run (held : mapped.contains path = true) : now.contains path = true := by
  obtain ⟨_, _, ran, kept, -⟩ := entries_mapNew paths mapped world
  cases run.symm.trans ran
  obtain ⟨entry, member, rfl⟩ := List.mem_map.1 (Mapped.contains_iff.1 held)
  exact Mapped.contains_of_mem (kept entry member)

theorem new_of_run (held : now.contains path = true) :
    mapped.contains path = true ∨ ∃ content, World.mapRegion world.disk path = .ok content := by
  obtain ⟨_, _, ran, -, new⟩ := entries_mapNew paths mapped world
  cases run.symm.trans ran
  obtain ⟨entry, member, rfl⟩ := List.mem_map.1 (Mapped.contains_iff.1 held)
  obtain old | maps := new entry member
  · exact .inl (Mapped.contains_of_mem old)
  · exact .inr ⟨entry.2, maps⟩

end Pass

/-- A second pass over the files that are worth one comes to the same end and maps nothing more. -/
theorem run_mapNew_again {keep : Path → Bool} {other : World} {second : Mapped}
    (run : (mapNew paths mapped).run World.serve world = ((outcome, now), world))
    (same : other.disk = world.disk)
    (worth : ∀ path ∈ paths, (∃ content, World.mapRegion world.disk path = .ok content) ∨
      (∃ reason, World.mapRegion world.disk path = .error (.layoutViolation reason)) → keep path = true)
    (holds : ∀ path, keep path = true → second.contains path = now.contains path) :
    (mapNew (paths.filter keep) second).run World.serve other = ((outcome, second), other) := by
  induction paths generalizing mapped with
  | nil =>
    obtain ⟨rfl, -⟩ := Prod.mk.inj (Prod.mk.inj run).1
    rfl
  | cons path paths ih =>
    obtain ⟨worthy, worth⟩ := List.forall_mem_cons.1 worth
    by_cases held : mapped.contains path = true
    · rw [mapNew, if_pos held] at run
      have rest := ih run worth
      cases kept : keep path with
      | false => rwa [List.filter_cons_of_neg (by simp [kept])]
      | true =>
        have mapped := (holds path kept).trans (contains_of_run run held)
        rwa [List.filter_cons_of_pos kept, mapNew, if_pos mapped]
    rw [run_mapNext held] at run
    split at run
    · next content maps =>
      have inserted : (path, content) ∈ mapped.insert path content := Mapped.mem_insert.2 (.inl rfl)
      have kept := worthy (.inl ⟨content, maps⟩)
      have mapped := (holds path kept).trans (contains_of_run run (Mapped.contains_of_mem inserted))
      rw [List.filter_cons_of_pos kept, mapNew, if_pos mapped]
      exact ih run worth
    · next reason refused =>
      have kept := worthy (.inr ⟨reason, refused⟩)
      obtain ⟨rfl, rfl⟩ := Prod.mk.inj (Prod.mk.inj run).1
      rw [← holds path kept] at held
      rw [List.filter_cons_of_pos kept, run_mapNext held, same, refused]
    · next error other failed =>
      have rest := ih run worth
      cases kept : keep path with
      | false => rwa [List.filter_cons_of_neg (by simp [kept])]
      | true =>
        have unmapped : ¬ second.contains path = true := by
          rw [holds path kept]
          intro mapped
          obtain old | ⟨content, maps⟩ := new_of_run run mapped
          · exact held old
          · rw [failed] at maps
            cases maps
        rw [List.filter_cons_of_pos kept, run_mapNext unmapped, same, failed]
        cases error with
        | layoutViolation reason => exact absurd rfl (other reason)
        | _ => exact rest

/-! ## Region files that are left -/

theorem content_of_broken (broken : hasBrokenHeader after path = true) :
    ∃ content, after.content? path = .ok content := by
  rw [hasBrokenHeader] at broken
  split at broken
  · cases broken
  · next content leads => exact ⟨content, leads⟩

theorem resolve_of_content {content : Nat} (leads : after.content? path = .ok content) :
    ∃ location, after.resolve true path = .ok (location, some (.file content)) := by
  rw [Disk.content?] at leads
  generalize after.resolve true path = found at leads
  rcases found with error | ⟨location, _ | held | _ | _⟩ <;> cases leads
  exact ⟨location, rfl⟩

-- A listed file that leads to a content is listed still.
theorem isRegionFile_of_content {content : Nat} (names : before.HasNames) (is : IsName name)
    (owned : (ownerOf? name).isSome) (listed : path ∈ filesIn before (lister.directory.join name))
    (leads : after.content? path = .ok content) : lister.IsRegionFile after path := by
  obtain ⟨files, file, reads, among, region, rfl⟩ := mem_filesIn.1 listed
  obtain ⟨location, found⟩ := resolve_of_content leads
  have entry := isEntryName_of_region region (names.readDirectory reads file among)
  obtain ⟨directory, mode, above, -, held⟩ := Disk.resolve_join entry found
  refine ⟨name, is, owned, mem_filesIn.2 ⟨_, file, ?_, Disk.mem_namesBelow_iff.2 held, region, rfl⟩⟩
  exact Disk.readDirectory_iff.2 ⟨directory, mode, above, rfl⟩

theorem isRegionFile_of_found {content : Nat} (names : world.disk.HasNames)
    (searched : Searches lister world (.ok paths) after) (found : path ∈ paths)
    (leads : after.content? path = .ok content) : lister.IsRegionFile after path := by
  obtain ⟨name, is, owned, -, listed⟩ := searched.listed paths rfl path found
  exact isRegionFile_of_content names is owned listed leads

section Found

variable (searched : Searches lister world (.ok paths) after)
  (maps : MapsNew after paths (stillThere paths mapped) outcome now)

include searched maps

theorem maps_all (ended : outcome = .ok ()) (region : lister.IsRegionFile after path)
    (ready : path ∈ mapped.paths ∨ ∃ content, World.mapRegion after path = .ok content) : path ∈ now.paths := by
  have found := searched.all paths rfl path region
  have same := Monitor.contains_stillThere found mapped
  by_cases held : (stillThere paths mapped).contains path = true
  · obtain ⟨entry, member, rfl⟩ := List.mem_map.1 (Mapped.contains_iff.1 held)
    exact List.mem_map_of_mem (maps.kept entry member)
  · obtain old | ⟨content, opens⟩ := ready
    · rw [same] at held
      exact absurd (Mapped.contains_iff.2 old) held
    · cases first : paths.find? (refuses after (stillThere paths mapped)) with
      | some other =>
        obtain ⟨reason, -, failed⟩ := maps.stopped other first
        rw [ended] at failed
        cases failed
      | none =>
        have member := (maps.done first).2 path found content (by simpa using held) opens
        exact List.mem_map_of_mem member

variable (names : world.disk.HasNames)

include names

theorem mapped_cases (held : path ∈ now.paths) :
    lister.IsRegionFile after path ∧
        (path ∈ mapped.paths ∨ ∃ content, World.mapRegion after path = .ok content) ∨
      ∃ name, IsStray lister (lister.told world) mapped world.disk after path name := by
  obtain ⟨entry, member, rfl⟩ := List.mem_map.1 held
  obtain old | ⟨found, -, opens⟩ := maps.new entry member
  · obtain ⟨old, found⟩ := List.mem_filter.1 old
    have old : entry.1 ∈ mapped.paths := List.mem_map_of_mem old
    obtain ⟨name, is, owned, alive, listed⟩ := searched.listed paths rfl entry.1 (by simpa using found)
    by_cases lost : entry.1 ∈ filesIn after (lister.directory.join name)
    · exact .inl ⟨⟨name, is, owned, lost⟩, .inl old⟩
    · exact .inr ⟨name, is, owned, alive, old, listed, lost⟩
  · have leads := (isSound_of_mapRegion opens).1
    exact .inl ⟨isRegionFile_of_found names searched found leads, .inr ⟨entry.2, opens⟩⟩

theorem refused_iff : (∃ path reason, outcome = .error (.layout path reason)) ↔
    ∃ path, lister.IsRegionFile after path ∧ mapped.contains path = false ∧ hasBrokenHeader after path = true := by
  have first := Monitor.find?_refuses_stillThere after paths mapped
  constructor
  · rintro ⟨text, reason, failed⟩
    cases refused : paths.find? (refuses after (stillThere paths mapped)) with
    | none =>
      rw [(maps.done refused).1] at failed
      cases failed
    | some path =>
      rw [first] at refused
      have refuses := List.find?_some refused
      rw [Lister.refuses, Bool.and_eq_true, Bool.not_eq_true'] at refuses
      obtain ⟨content, leads⟩ := content_of_broken refuses.2
      have region := isRegionFile_of_found names searched (List.mem_of_find?_eq_some refused) leads
      exact ⟨path, region, refuses⟩
  · rintro ⟨path, region, isNew, broken⟩
    have found := searched.all paths rfl path region
    cases refused : paths.find? (refuses after (stillThere paths mapped)) with
    | none =>
      rw [first] at refused
      have sound := List.find?_eq_none.1 refused path found
      simp [Lister.refuses, isNew, broken] at sound
    | some other =>
      obtain ⟨reason, -, failed⟩ := maps.stopped other refused
      exact ⟨_, _, failed⟩

end Found

/-! ## The effect -/

theorem eq_filter_of_subset (first : InOrder paths) (second : InOrder again) (within : again ⊆ paths) :
    again = paths.filter again.contains := by
  have inOrder : InOrder (paths.filter again.contains) := first.sublist List.filter_sublist
  refine List.Perm.eq_of_pairwise (fun a b _ _ less more => ?_) second inOrder ?_
  · have same := before_trans less more
    rw [before_irrefl] at same
    cases same
  · refine (List.perm_ext_iff_of_nodup second.nodup inOrder.nodup).2 fun path => ?_
    rw [List.mem_filter, List.contains_iff_mem]
    exact ⟨fun member => ⟨within member, member⟩, And.right⟩

theorem cause_of_search {cause : ListerError}
    (run : lister.search.run World.serve world = (.error cause, looked)) :
    cause = .readDirectory lister.directory.text := by
  have gives := Gives.run (search_gives lister) World.serve world
  rwa [run] at gives

theorem run_update_failed {cause : ListerError}
    (run : lister.search.run World.serve world = (.error cause, looked)) (mapped : Mapped) :
    (lister.update mapped).run World.serve world = ((.error cause, mapped), looked) := by
  rw [update_eq]
  exact World.run_program_bind run (mapFound mapped)

-- The second update comes to the same end, and keeps the mappings of the region files that are left.
theorem update_again (names : world.disk.HasNames) (searched : Searches lister world (.ok paths) looked.disk)
    (inOrder : InOrder paths)
    (run : (mapNew paths (stillThere paths mapped)).run World.serve looked = ((outcome, now), looked))
    (same : later.disk = looked.disk) (told : lister.told later = lister.told world) :
    ∃ again last, (lister.update now).run World.serve later = ((outcome, stillThere again now), last) ∧
      last.disk = looked.disk ∧ ∀ path, path ∈ again ↔ lister.IsRegionFile looked.disk path := by
  obtain ⟨found, last, second, kept, -, all⟩ := search_again names searched same told
  obtain ⟨again, rfl, are⟩ := all paths rfl
  refine ⟨again, last, ?_, kept, are⟩
  have within : again ⊆ paths := fun path member => searched.all paths rfl path ((are path).1 member)
  have filtered := eq_filter_of_subset inOrder (inOrder_of_search second) within
  have worth : ∀ path ∈ paths, (∃ content, World.mapRegion looked.disk path = .ok content) ∨
      (∃ reason, World.mapRegion looked.disk path = .error (.layoutViolation reason)) →
        again.contains path = true := by
    intro path found ready
    rw [List.contains_iff_mem, are]
    obtain ⟨content, opens⟩ | ⟨reason, refused⟩ := ready
    · exact isRegionFile_of_found names searched found (isSound_of_mapRegion opens).1
    · obtain ⟨content, leads⟩ := content_of_broken (hasBrokenHeader_of_mapRegion refused)
      exact isRegionFile_of_found names searched found leads
  have holds : ∀ path, again.contains path = true → (stillThere again now).contains path = now.contains path :=
    fun path member => Monitor.contains_stillThere (List.contains_iff_mem.1 member) now
  have ran := run_mapNew_again run kept worth holds
  rw [← filtered] at ran
  rw [run_update second, ran]

structure Effect (lister : Lister) (mapped : Mapped) (world : World) (outcome : Except ListerError Unit)
    (now : Mapped) (after : Disk) (root : Location) (gone : List String) : Prop where
  takesAway : TakesAway lister (lister.told world) world.disk after root gone
  spared : world.disk.LeadsTo lister.directory root → ∀ name, IsName name →
    isGone (lister.told world) name = true → world.disk.isDirectory (lister.directory.join name) = true →
    name ∉ gone → ∃ target, world.disk.entry? (root ++ [name]) = some (.link target)
  untouched : lister.told world = none ∨ world.disk.pathExists lister.directory = false → after = world.disk
  missing : world.disk.pathExists lister.directory = false → outcome = .ok () ∧ now = []
  unread : ∀ path, outcome = .error (.readDirectory path) ↔ path = lister.directory.text ∧
    world.disk.pathExists lister.directory = true ∧ world.disk.isDirectory lister.directory = false
  refused : (∃ path reason, outcome = .error (.layout path reason)) ↔
    ∃ path, lister.IsRegionFile after path ∧ mapped.contains path = false ∧ hasBrokenHeader after path = true
  -- On success, all region files that can be are mapped, and besides them at most strays.
  all : outcome = .ok () → ∀ path, lister.IsRegionFile after path →
    (path ∈ mapped.paths ∨ ∃ content, World.mapRegion after path = .ok content) → path ∈ now.paths
  only : outcome = .ok () → ∀ path ∈ now.paths,
    lister.IsRegionFile after path ∧
        (path ∈ mapped.paths ∨ ∃ content, World.mapRegion after path = .ok content) ∨
      ∃ name, IsStray lister (lister.told world) mapped world.disk after path name
  entries : ∀ entry ∈ now, entry ∈ mapped ∨
    mapped.contains entry.1 = false ∧ World.mapRegion after entry.1 = .ok entry.2
  strays : world.disk.LeadsTo lister.directory root → ∀ path name,
    IsStray lister (lister.told world) mapped world.disk after path name →
      ∃ target, world.disk.entry? (root ++ [name]) = some (.link target)
  -- A second update does the same again, and forgets the strays.
  again : ∀ later : World, later.disk = after → lister.told later = lister.told world →
    ∃ keep last, (lister.update now).run World.serve later = ((outcome, now.filter keep), last) ∧
      last.disk = after ∧ ∀ entry ∈ now, keep entry = false →
        ∃ name, IsStray lister (lister.told world) mapped world.disk after entry.1 name

theorem untouched_of_told (takes : TakesAway lister (lister.told world) world.disk after root gone)
    (spared : lister.told world = none ∨ world.disk.pathExists lister.directory = false) : after = world.disk := by
  refine takes.eq_of_nothing fun name is departed => ?_
  obtain none | missing := spared
  · rw [isGone_of_none none] at departed
    cases departed
  · refine Bool.eq_false_iff.2 fun leads => ?_
    have above := pathExists_of_join (isEntryName_of_isSome (owner_of_isGone departed) is) leads
    rw [missing] at above
    cases above.1

theorem effect_unread {cause : ListerError} (names : world.disk.HasNames)
    (run : (lister.update mapped).run World.serve world = ((.error cause, mapped), looked))
    (listing : lister.Listing (.error cause)) (searched : Searches lister world (.error cause) looked.disk) :
    ∃ root gone, Effect lister mapped world (.error cause) mapped looked.disk root gone := by
  obtain ⟨root, gone, takes⟩ := searched.takesAway
  obtain ⟨there, other⟩ := searched.unread.1 ⟨cause, rfl⟩
  obtain rfl : cause = .readDirectory lister.directory.text := listing
  refine ⟨root, gone, takes, fun top name is departed leads left => takes.link_of_departed top is departed leads left,
    untouched_of_told takes, fun missing => ?_, fun path => ⟨?_, ?_⟩, ⟨?_, ?_⟩, nofun, nofun,
    fun entry => .inl, fun top path name stray => stray.link takes top, fun later same told => ?_⟩
  · rw [there] at missing
    cases missing
  · rintro ⟨⟩
    exact ⟨rfl, there, other⟩
  · rintro ⟨rfl, -⟩
    rfl
  · rintro ⟨path, reason, ⟨⟩⟩
  · rintro ⟨path, region, -⟩
    have is := Disk.isDirectory_within takes.within region.isDirectory.2
    rw [other] at is
    cases is
  · obtain ⟨again, last, second, kept, fails, -⟩ := search_again names searched same told
    obtain ⟨cause, rfl⟩ := fails ⟨_, rfl⟩
    obtain rfl := cause_of_search second
    refine ⟨fun _ => true, last, ?_, kept, nofun⟩
    rw [List.filter_true]
    exact run_update_failed second mapped

theorem effect_read (names : world.disk.HasNames) (inOrder : InOrder paths)
    (searched : Searches lister world (.ok paths) looked.disk)
    (maps : MapsNew looked.disk paths (stillThere paths mapped) outcome now)
    (run : (mapNew paths (stillThere paths mapped)).run World.serve looked = ((outcome, now), looked)) :
    ∃ root gone, Effect lister mapped world outcome now looked.disk root gone := by
  obtain ⟨root, gone, takes⟩ := searched.takesAway
  refine ⟨root, gone, takes, fun top name is departed leads left => takes.link_of_departed top is departed leads left,
    untouched_of_told takes, fun missing => ?_, fun path => ⟨fun failed => ?_, fun unread => ?_⟩,
    refused_iff searched maps names, fun ended path => maps_all searched maps ended,
    fun _ path => mapped_cases searched maps names, fun entry member => ?_,
    fun top path name stray => stray.link takes top, fun later same told => ?_⟩
  · cases searched.missing missing
    cases run
    exact ⟨rfl, by simp [stillThere]⟩
  · cases refused : paths.find? (refuses looked.disk (stillThere paths mapped)) with
    | none => cases (maps.done refused).1.symm.trans failed
    | some path =>
      obtain ⟨reason, -, other⟩ := maps.stopped path refused
      cases other.symm.trans failed
  · obtain ⟨cause, failed⟩ := searched.unread.2 unread.2
    cases failed
  · obtain old | ⟨found, isNew, opens⟩ := maps.new entry member
    · exact .inl (List.mem_filter.1 old).1
    · rw [Monitor.contains_stillThere found] at isNew
      exact .inr ⟨isNew, opens⟩
  · obtain ⟨again, last, second, kept, are⟩ := update_again names searched inOrder run same told
    refine ⟨_, last, second, kept, fun entry member lost => ?_⟩
    obtain region | stray := mapped_cases searched maps names (List.mem_map_of_mem member)
    · rw [List.contains_iff_mem.2 ((are entry.1).2 region.1)] at lost
      cases lost
    · exact stray

/-- The exact effect of an update with nobody else around. -/
theorem update_effect (lister : Lister) (names : world.disk.HasNames) (inOrder : InOrder mapped.paths) :
    ∃ outcome now after root gone, (lister.update mapped).run World.serve world = ((outcome, now), after) ∧
      Effect lister mapped world outcome now after.disk root gone := by
  obtain ⟨found, looked, search, searched⟩ := searches names lister
  have updates := updates lister inOrder search
  cases found with
  | error cause =>
    have run := updates.failed cause rfl
    obtain ⟨root, gone, effect⟩ := effect_unread names run updates.listing searched
    exact ⟨_, _, looked, root, gone, run, effect⟩
  | ok paths =>
    obtain ⟨outcome, now, run, maps⟩ := updates.mapped paths rfl
    have pass := (run_update search mapped).symm.trans run
    obtain ⟨root, gone, effect⟩ := effect_read names (inOrder_of_search search) searched maps pass
    exact ⟨outcome, now, looked, root, gone, run, effect⟩

/-! ## Directories and links -/

def roomOf (uid : String) (entries : List (Location × Entry)) : World where
  connection := { store := { pods := [podOf uid] } }
  disk := ⟨(["containers"], .directory Disk.defaultMode) :: entries, #[Region.zeros Region.Layout.size]⟩

def directoryAt (name : String) : Location × Entry := (["containers", name], .directory Disk.defaultMode)

def linkAt (name target : String) : Location × Entry := (["containers", name], .link ⟨target⟩)

def moved : World :=
  roomOf "uid-b" [directoryAt "uid-a_main", directoryAt "uid-b_main",
    (["containers", "uid-b_main", "region.cache"], .file 0)]

def movedPath : Path := (onNode.directory.join "uid-b_main").join "region.cache"

theorem update_effect_moved : moved.disk.HasNames ∧ InOrder (Mapped.paths []) ∧
    ∃ after root gone, (onNode.update []).run World.serve moved = ((.ok (), [(movedPath, 0)]), after) ∧
      Effect onNode [] moved (.ok ()) [(movedPath, 0)] after.disk root gone ∧
      moved.disk.isDirectory (onNode.directory.join "uid-a_main") = true ∧
      after.disk.isDirectory (onNode.directory.join "uid-a_main") = false := by
  have names : moved.disk.HasNames := by
    unfold Disk.HasNames
    decide
  have inOrder : InOrder (Mapped.paths []) := List.Pairwise.nil
  have found : (onNode.search.run World.serve moved).1 = .ok [movedPath] := ok_of_toOption (by decide +kernel)
  have leads : (onNode.search.run World.serve moved).2.disk.content? movedPath = .ok 0 :=
    ok_of_toOption (by decide +kernel)
  obtain ⟨outcome, now, after, root, gone, run, effect⟩ := update_effect onNode names inOrder
  have maps := update_of_search found leads Monitor.isSound_opened
  obtain ⟨rfl, rfl⟩ := Prod.mk.inj (Prod.mk.inj (run.symm.trans maps)).1
  have departed : isGone (onNode.told moved) "uid-a_main" = true := by decide +kernel
  exact ⟨names, inOrder, after, root, gone, run, effect, by decide +kernel,
    effect.takesAway.none_left "uid-a_main" (by decide) departed⟩

/-- A link that is named for a pod that is gone leads to a directory elsewhere. -/
def linkedAway : World :=
  roomOf "uid-b" [linkAt "uid-a_main" "/elsewhere", (["elsewhere"], .directory Disk.defaultMode)]

/-- A link and the directory that it leads to are both named for pods that are gone. -/
def linkedBack : World :=
  roomOf "uid-c" [directoryAt "uid-a_main", linkAt "uid-b_main" "/containers/uid-a_main"]

/-- A link that is named for a pod on the node leads to the directory of one that is gone. -/
def linkedOn : World :=
  roomOf "uid-a" [linkAt "uid-a_main" "/containers/uid-b_main", directoryAt "uid-b_main",
    (["containers", "uid-b_main", "region.cache"], .file 0)]

def linkedPath : Path := (onNode.directory.join "uid-a_main").join "region.cache"

def linkedOnce : (Except ListerError Unit × Mapped) × World :=
  (onNode.update [(linkedPath, 0)]).run World.serve linkedOn

-- An entry that is a link is taken away, another one that leads to a directory is left, and a second update with
-- nothing changed forgets a mapping that the first one kept.
theorem links_are_taken_for_directories :
    (linkedAway.disk.entry? ["containers", "uid-a_main"] = some (.link ⟨"/elsewhere"⟩) ∧
      ((onNode.update []).run World.serve linkedAway).2.disk.entry? ["containers", "uid-a_main"] = none) ∧
    (isGone (onNode.told linkedBack) "uid-b_main" = true ∧
      linkedBack.disk.isDirectory (onNode.directory.join "uid-b_main") = true ∧
      ((onNode.update []).run World.serve linkedBack).2.disk.entry? ["containers", "uid-b_main"] =
        some (.link ⟨"/containers/uid-a_main"⟩)) ∧
    (linkedOnce.1.1.isOk = true ∧ linkedOnce.1.2 = [(linkedPath, 0)] ∧
      ((onNode.update linkedOnce.1.2).run World.serve linkedOnce.2).1.2 = []) :=
  ⟨by decide +kernel, by decide +kernel, by decide +kernel⟩

end GpuShare.Agent.Lister
