import GpuShare.Proofs.Agent.Clearing

/-!
What a search leaves. It takes away the entries of its directory that lead to directories of departed pods, and finds
all region files that are left in others. A second search takes nothing away; it can only miss files that the first one
found through a link into a directory which it took away later.
-/

set_option autoImplicit false

namespace GpuShare.Agent.Lister

open Program GpuShare.Path

variable {lister : Lister} {live : Option (List String)} {name : String} {gone : List String}
  {before after : Disk} {root : Location} {path : Path} {world later looked : World} {mapped : Mapped}
  {paths : List Path}

/-! ## One search -/

theorem pathExists_of_join (is : IsEntryName name)
    (leads : before.isDirectory (lister.directory.join name) = true) :
    before.pathExists lister.directory = true ∧ before.isDirectory lister.directory = true := by
  obtain ⟨location, mode, found⟩ := Disk.isDirectory_iff.1 leads
  obtain ⟨root, mode, above, -⟩ := Disk.resolve_join is found
  rw [Disk.pathExists, Disk.isDirectory, above]
  exact ⟨rfl, rfl⟩

theorem isDirectory_of_filesIn {directory : Path} (member : path ∈ filesIn before directory) :
    before.isDirectory directory = true := by
  obtain ⟨names, file, reads, -⟩ := mem_filesIn.1 member
  obtain ⟨root, mode, leads, -⟩ := Disk.readDirectory_iff.1 reads
  exact Disk.isDirectory_iff.2 ⟨root, mode, leads⟩

theorem IsRegionFile.isDirectory (region : lister.IsRegionFile before path) :
    before.pathExists lister.directory = true ∧ before.isDirectory lister.directory = true := by
  obtain ⟨name, is, owned, member⟩ := region
  exact pathExists_of_join (isEntryName_of_isSome owned is) (isDirectory_of_filesIn member)

-- Where the directory is no directory, there is nothing to take away.
theorem takesAway_nothing (other : before.isDirectory lister.directory = false) (live : Option (List String)) :
    TakesAway lister live before before [] [] := by
  refine ⟨fun location mode leads => ?_, nofun, (before.without_nil []).symm, fun name is departed => ?_⟩
  · rw [Disk.isDirectory, leads] at other
    cases other
  · refine Bool.eq_false_iff.2 fun leads => ?_
    have above := (pathExists_of_join (isEntryName_of_isSome (owner_of_isGone departed) is) leads).2
    rw [other] at above
    cases above

theorem readDirectory_of_isDirectory (is : before.isDirectory path = true) :
    ∃ names, before.readDirectory path = .ok names := by
  obtain ⟨root, mode, leads⟩ := Disk.isDirectory_iff.1 is
  exact ⟨_, Disk.readDirectory_iff.2 ⟨root, mode, leads, rfl⟩⟩

structure Searches (lister : Lister) (world : World) (found : Except ListerError (List Path)) (after : Disk) :
    Prop where
  takesAway : ∃ root gone, TakesAway lister (lister.told world) world.disk after root gone
  missing : world.disk.pathExists lister.directory = false → found = .ok []
  unread : (∃ cause, found = .error cause) ↔
    world.disk.pathExists lister.directory = true ∧ world.disk.isDirectory lister.directory = false
  listed : ∀ paths, found = .ok paths → ∀ path ∈ paths, ∃ name, IsName name ∧ (ownerOf? name).isSome ∧
    isGone (lister.told world) name = false ∧ path ∈ filesIn world.disk (lister.directory.join name)
  all : ∀ paths, found = .ok paths → ∀ path, lister.IsRegionFile after path → path ∈ paths

theorem takesAway_scanned (names : before.HasNames) {told : List String}
    (reads : before.readDirectory lister.directory = .ok told) (live : Option (List String)) :
    ∃ root gone, TakesAway lister live before (lister.scanned live told before) root gone := by
  obtain ⟨root, mode, leads, rfl⟩ := Disk.readDirectory_iff.1 reads
  have are : ∀ name ∈ before.namesBelow root, IsName name := names.readDirectory reads
  have place : ∀ location mode, before.resolve true lister.directory = .ok (location, some (.directory mode)) →
      location = root := by
    intro location mode found
    exact (Prod.mk.inj (Except.ok.inj (found.symm.trans leads))).1
  obtain ⟨gone, departed, remains, left⟩ := scanned_spec lister live before are place
  refine ⟨root, gone, place, departed, remains, fun name is departed => ?_⟩
  refine Bool.eq_false_iff.2 fun found => ?_
  -- What leads to a directory now was among the names.
  have entry := isEntryName_of_isSome (owner_of_isGone departed) is
  have within := scanned_within lister live before are
  obtain ⟨location, inner, stands⟩ := Disk.isDirectory_iff.1 found
  obtain ⟨other, mode, above, fits, held⟩ := Disk.resolve_join entry stands
  obtain rfl := place other mode (Disk.resolve_within within above)
  obtain ⟨held, is⟩ := held
  have among := Disk.mem_namesBelow_iff.2 ⟨held, within _ _ is⟩
  rw [left name among departed] at found
  cases found

theorem TakesAway.within (takes : TakesAway lister live before after root gone) : after.Within before := by
  rw [takes.remains]
  exact Disk.within_without before root gone

-- A region file that is left has a living pod, and its directory was listed.
theorem TakesAway.alive (takes : TakesAway lister live before after root gone) (is : IsName name)
    (owned : (ownerOf? name).isSome) (listed : path ∈ filesIn after (lister.directory.join name)) :
    isGone live name = false ∧ ∀ told, before.readDirectory lister.directory = .ok told → name ∈ told := by
  have leads := isDirectory_of_filesIn listed
  constructor
  · refine Bool.eq_false_iff.2 fun departed => ?_
    rw [takes.none_left name is departed] at leads
    cases leads
  · intro told reads
    obtain ⟨place, mode, top, rfl⟩ := Disk.readDirectory_iff.1 reads
    obtain ⟨location, inner, stands⟩ := Disk.isDirectory_iff.1 leads
    obtain ⟨other, mode, above, fits, entry, held⟩ := Disk.resolve_join (isEntryName_of_isSome owned is) stands
    have same := (Disk.resolve_within takes.within above).symm.trans top
    obtain ⟨rfl, -⟩ := Prod.mk.inj (Except.ok.inj same)
    exact Disk.mem_namesBelow_iff.2 ⟨entry, takes.within _ _ held⟩

theorem isGone_of_none (none : live = none) (name : String) : isGone live name = false := by
  simp [none, isGone, isDeparted]

theorem searches_missing (missing : world.disk.pathExists lister.directory = false) :
    Searches lister world (.ok []) world.disk := by
  have other := Disk.isDirectory_of_missing missing
  refine ⟨⟨_, _, takesAway_nothing other _⟩, fun _ => rfl, by simp [missing], ?_, ?_⟩
  · rintro paths ⟨⟩
    nofun
  · rintro paths - path region
    rw [region.isDirectory.1] at missing
    cases missing

theorem searches_unread (there : world.disk.pathExists lister.directory = true)
    (other : world.disk.isDirectory lister.directory = false) :
    Searches lister world (.error (.readDirectory lister.directory.text)) world.disk := by
  refine ⟨⟨_, _, takesAway_nothing other _⟩, fun missing => ?_, by simp [there, other], nofun, nofun⟩
  rw [there] at missing
  cases missing

theorem searches_read (hasNames : world.disk.HasNames) {told : List String}
    (reads : world.disk.readDirectory lister.directory = .ok told) :
    Searches lister world (.ok (lister.scanFinds (lister.told world) told world.disk))
      (lister.scanned (lister.told world) told world.disk) := by
  have are : ∀ name ∈ told, IsName name := hasNames.readDirectory reads
  obtain ⟨root, gone, takes⟩ := takesAway_scanned hasNames reads (lister.told world)
  obtain ⟨place, mode, leads, -⟩ := Disk.readDirectory_iff.1 reads
  refine ⟨⟨root, gone, takes⟩, fun missing => ?_, ?_, ?_, ?_⟩
  · rw [Disk.pathExists, leads] at missing
    cases missing
  · simp [Disk.isDirectory, leads]
  · rintro paths ⟨⟩ path member
    obtain ⟨name, among, owned, alive, listed⟩ := of_mem_scanFinds are member
    exact ⟨name, are name among, owned, alive, listed⟩
  · rintro paths ⟨⟩ path ⟨name, is, owned, listed⟩
    obtain ⟨alive, among⟩ := takes.alive is owned listed
    exact mem_scanFinds hasNames are (among told reads) owned alive listed

theorem searches (names : world.disk.HasNames) (lister : Lister) : ∃ found looked,
    lister.search.run World.serve world = (found, looked) ∧ Searches lister world found looked.disk := by
  cases there : world.disk.pathExists lister.directory with
  | false => exact ⟨_, _, run_search_missing there, searches_missing there⟩
  | true =>
    have run := run_search there
    cases reads : world.disk.readDirectory lister.directory with
    | error error =>
      have other : world.disk.isDirectory lister.directory = false := by
        refine Bool.eq_false_iff.2 fun is => ?_
        obtain ⟨told, read⟩ := readDirectory_of_isDirectory is
        rw [reads] at read
        cases read
      rw [reads] at run
      refine ⟨_, _, run, ?_⟩
      rw [disk_informed]
      exact searches_unread there other
    | ok told =>
      rw [reads] at run
      exact ⟨_, _, run, searches_read names reads⟩

/-! ## Links -/

-- An entry that leads to a directory and is not taken away leads there still, unless it is a link.
theorem TakesAway.spares (takes : TakesAway lister live before after root gone)
    (top : before.LeadsTo lister.directory root) (is : IsEntryName name) (spared : name ∉ gone)
    (leads : before.isDirectory (lister.directory.join name) = true) :
    (∃ target, before.entry? (root ++ [name]) = some (.link target)) ∨
      ∃ mode, before.resolve true (lister.directory.join name) = .ok (root ++ [name], some (.directory mode)) ∧
        after.resolve true (lister.directory.join name) = .ok (root ++ [name], some (.directory mode)) := by
  obtain ⟨location, inner, found⟩ := Disk.isDirectory_iff.1 leads
  obtain ⟨other, mode, above, fits, entry, held⟩ := Disk.resolve_join is found
  obtain rfl := takes.place other mode above
  have here := Disk.resolve_entry is fits above held
  cases entry with
  | link target => exact .inl ⟨target, held⟩
  | file content => cases found.symm.trans (Disk.resolve_follow here nofun)
  | directory inner =>
    refine .inr ⟨inner, Disk.resolve_follow here nofun, ?_⟩
    have outside : ∀ location, ¬ Disk.IsBelow other location →
        after.entry? location = before.entry? location := by
      intro location above
      rw [takes.remains, Disk.entry?_without, if_neg]
      rintro ⟨name, -, below⟩
      refine above ⟨(List.prefix_append _ _).trans below, ?_⟩
      rintro rfl
      simpa using below.length_le
    obtain ⟨mode, above⟩ := top after outside
    have kept : after.entry? (other ++ [name]) = some (.directory inner) := by
      rw [takes.remains, Disk.entry?_without, if_neg, held]
      rintro ⟨gone, among, below⟩
      have same : other ++ [gone] = other ++ [name] := below.eq_of_length (by simp)
      exact spared ((List.singleton_injective (List.append_cancel_left same)) ▸ among)
    exact Disk.resolve_follow (Disk.resolve_entry is fits above kept) nofun

-- Only a link keeps a directory of a departed pod from being taken away.
theorem TakesAway.link_of_departed (takes : TakesAway lister live before after root gone)
    (top : before.LeadsTo lister.directory root) (is : IsName name) (departed : isGone live name = true)
    (leads : before.isDirectory (lister.directory.join name) = true) (left : name ∉ gone) :
    ∃ target, before.entry? (root ++ [name]) = some (.link target) := by
  have entry := isEntryName_of_isSome (owner_of_isGone departed) is
  obtain link | ⟨mode, -, still⟩ := takes.spares top entry left leads
  · exact link
  · have nothing := takes.none_left name is departed
    rw [Disk.isDirectory, still] at nothing
    cases nothing

/-- A mapped file that was in the directory of a container, and is not any more when the update has taken other
directories away. -/
structure IsStray (lister : Lister) (live : Option (List String)) (mapped : Mapped) (before after : Disk)
    (path : Path) (name : String) : Prop where
  isName : IsName name
  owned : (ownerOf? name).isSome
  alive : isGone live name = false
  mapped : path ∈ mapped.paths
  listed : path ∈ filesIn before (lister.directory.join name)
  lost : path ∉ filesIn after (lister.directory.join name)

theorem IsStray.link (stray : IsStray lister live mapped before after path name)
    (takes : TakesAway lister live before after root gone) (top : before.LeadsTo lister.directory root) :
    ∃ target, before.entry? (root ++ [name]) = some (.link target) := by
  have entry := isEntryName_of_isSome stray.owned stray.isName
  have spared : name ∉ gone := by
    intro among
    have departed := (takes.departed name among).2.1
    rw [stray.alive] at departed
    cases departed
  obtain link | ⟨mode, leads, still⟩ := takes.spares top entry spared (isDirectory_of_filesIn stray.listed)
  · exact link
  · -- The directory is still there, and so are its files.
    refine absurd ?_ stray.lost
    obtain ⟨names, file, reads, among, region, rfl⟩ := mem_filesIn.1 stray.listed
    obtain ⟨other, inner, found, rfl⟩ := Disk.readDirectory_iff.1 reads
    obtain ⟨rfl, -⟩ := Prod.mk.inj (Except.ok.inj (found.symm.trans leads))
    obtain ⟨entry, held⟩ := Disk.mem_namesBelow_iff.1 among
    refine mem_filesIn.2 ⟨_, file, Disk.readDirectory_iff.2 ⟨_, mode, still, rfl⟩, ?_, region, rfl⟩
    refine Disk.mem_namesBelow_iff.2 ⟨entry, ?_⟩
    rw [takes.remains, Disk.entry?_without, if_neg, held]
    rintro ⟨removed, removes, below⟩
    have same : removed = name := by
      obtain ⟨rest, whole⟩ := below
      simpa using congrArg (·[root.length]?) whole
    exact spared (same ▸ removes)

/-! ## Searching again -/

theorem TakesAway.eq_of_nothing (takes : TakesAway lister live before after root gone)
    (nothing : ∀ name, IsName name → isGone live name = true →
      before.isDirectory (lister.directory.join name) = false) : after = before := by
  have none : gone = [] := by
    refine List.eq_nil_iff_forall_not_mem.2 fun name among => ?_
    obtain ⟨is, departed, leads⟩ := takes.departed name among
    rw [nothing name is departed] at leads
    cases leads
  rw [takes.remains, none, Disk.without_nil]

theorem TakesAway.hasNames (takes : TakesAway lister live before after root gone) (names : before.HasNames) :
    after.HasNames := by
  rw [takes.remains]
  exact fun entry member => names entry (List.mem_filter.1 member).1

theorem inOrder_of_search (run : lister.search.run World.serve world = (.ok paths, looked)) : InOrder paths := by
  have gives := Gives.run (search_gives lister) World.serve world
  rwa [run] at gives

/-- A second search takes nothing away, and finds the region files that are left. -/
theorem search_again {found : Except ListerError (List Path)} (names : world.disk.HasNames)
    (searched : Searches lister world found after) (same : later.disk = after)
    (told : lister.told later = lister.told world) :
    ∃ again looked, lister.search.run World.serve later = (again, looked) ∧ looked.disk = after ∧
      ((∃ cause, found = .error cause) → ∃ cause, again = .error cause) ∧
      ∀ paths, found = .ok paths →
        ∃ paths, again = .ok paths ∧ ∀ path, path ∈ paths ↔ lister.IsRegionFile after path := by
  obtain ⟨root, gone, takes⟩ := searched.takesAway
  have hasNames : later.disk.HasNames := same ▸ takes.hasNames names
  obtain ⟨again, looked, run, second⟩ := searches hasNames lister
  obtain ⟨place, others, more⟩ := second.takesAway
  have kept : looked.disk = later.disk := more.eq_of_nothing fun name is departed => by
    rw [told] at departed
    rw [same]
    exact takes.none_left name is departed
  refine ⟨again, looked, run, kept.trans same, fun unread => ?_, fun paths ok => ?_⟩
  · have unread := searched.unread.1 unread
    have untouched : after = world.disk := takes.eq_of_nothing fun name is departed => by
      refine Bool.eq_false_iff.2 fun leads => ?_
      have above := pathExists_of_join (isEntryName_of_isSome (owner_of_isGone departed) is) leads
      rw [unread.2] at above
      cases above.2
    refine second.unread.2 ?_
    rwa [same, untouched]
  · have read : ¬ ∃ cause, again = .error cause := by
      rw [second.unread, same]
      rintro ⟨there, other⟩
      have before := Disk.pathExists_within takes.within there
      cases is : world.disk.isDirectory lister.directory with
      | false =>
        obtain ⟨cause, failed⟩ := searched.unread.2 ⟨before, is⟩
        rw [ok] at failed
        cases failed
      | true =>
        rw [Disk.isDirectory_of_pathExists takes.within is there] at other
        cases other
    cases again with
    | error cause => exact absurd ⟨cause, rfl⟩ read
    | ok paths =>
      refine ⟨paths, rfl, fun path => ⟨fun member => ?_, fun region => ?_⟩⟩
      · obtain ⟨name, is, owned, -, listed⟩ := second.listed paths rfl path member
        rw [same] at listed
        exact ⟨name, is, owned, listed⟩
      · refine second.all paths rfl path ?_
        rwa [kept, same]

end GpuShare.Agent.Lister
