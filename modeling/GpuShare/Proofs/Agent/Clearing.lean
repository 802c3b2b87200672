import GpuShare.Proofs.Agent.RegionSearch
import GpuShare.Proofs.File.Removal

/-!
A search for region files with nobody else around. It is a walk over the entries of the lister's directory, and
each visit depends on the disk alone: it takes away a directory whose pod is gone, or lists the region files in
another. What later visits take away, earlier ones may have listed, but only through a link.
-/

set_option autoImplicit false

namespace GpuShare.Agent.Lister

open Program GpuShare.Path

variable {lister : Lister} {live : Option (List String)} {name : String} {names gone more : List String}
  {disk after : Disk} {root : Location} {path directory : Path} {world : World} {mode : Nat}

/-! ## Visits -/

def isGone (live : Option (List String)) (name : String) : Bool :=
  (ownerOf? name).any fun owner => isDeparted live owner.1

def filesIn (disk : Disk) (directory : Path) : List Path :=
  match disk.readDirectory directory with
  | .ok names => (names.filter isRegionName).map directory.join
  | .error _ => []

def visited (lister : Lister) (live : Option (List String)) (name : String) (disk : Disk) : Disk :=
  if isGone live name ∧ disk.isDirectory (lister.directory.join name) then
    (disk.removeTree (lister.directory.join name)).2
  else disk

def visitFinds (lister : Lister) (live : Option (List String)) (name : String) (disk : Disk) : List Path :=
  if (ownerOf? name).isSome ∧ isGone live name = false then filesIn disk (lister.directory.join name) else []

def scanned (lister : Lister) (live : Option (List String)) : List String → Disk → Disk
  | [], disk => disk
  | name :: names, disk => lister.scanned live names (lister.visited live name disk)

def scanFinds (lister : Lister) (live : Option (List String)) : List String → Disk → List Path
  | [], _ => []
  | name :: names, disk =>
    (lister.visitFinds live name disk).foldr insertPath (lister.scanFinds live names (lister.visited live name disk))

theorem filesIn_of_not_isDirectory (other : disk.isDirectory directory = false) : filesIn disk directory = [] := by
  rw [filesIn]
  split
  · next reads =>
    obtain ⟨root, mode, leads, -⟩ := Disk.readDirectory_iff.1 reads
    rw [Disk.isDirectory, leads] at other
    cases other
  · rfl

theorem run_regionFiles (directory : Path) (world : World) :
    (regionFiles directory).run World.serve world = (filesIn world.disk directory, world) := by
  have asked : World.serve (.readDirectory directory) world = (world.disk.readDirectory directory, world) := rfl
  change Program.run World.serve (Program.ask (I := interface) (.readDirectory directory) _) world = _
  rw [Program.run, asked, filesIn]
  cases world.disk.readDirectory directory <;> rfl

theorem run_visit (lister : Lister) (live : Option (List String)) (name : String) (world : World) :
    (lister.visit live name).run World.serve world =
      (lister.visitFinds live name world.disk, { world with disk := lister.visited live name world.disk }) := by
  have asked : World.serve (.isDirectory (lister.directory.join name)) world =
      (world.disk.isDirectory (lister.directory.join name), world) := rfl
  change Program.run World.serve (Program.ask (I := interface) (.isDirectory (lister.directory.join name)) _) world = _
  rw [Program.run, asked, visitFinds, visited, isGone]
  cases is : world.disk.isDirectory (lister.directory.join name) with
  | false =>
    have nothing := filesIn_of_not_isDirectory is
    simp only [nothing, ite_self, Bool.false_eq_true, and_false, if_false]
    rfl
  | true =>
    cases owned : ownerOf? name with
    | none => rfl
    | some owner =>
      cases departed : isDeparted live owner.1 with
      | false =>
        simp only [Option.any_some, departed]
        exact run_regionFiles _ world
      | true =>
        simp only [Option.any_some, departed]
        rfl

theorem run_scan (lister : Lister) (live : Option (List String)) (names : List String) (world : World) :
    (lister.scan live names).run World.serve world =
      (lister.scanFinds live names world.disk, { world with disk := lister.scanned live names world.disk }) := by
  induction names generalizing world with
  | nil => rfl
  | cons name names ih =>
    refine (World.run_program_bind (run_visit lister live name world) _).trans ?_
    refine (World.run_program_bind (ih _) _).trans ?_
    rfl

/-! ## The search -/

def told (lister : Lister) (world : World) : Option (List String) :=
  (lister.livePods?.run World.serve world).1

def informed (lister : Lister) (world : World) : World := (lister.livePods?.run World.serve world).2

theorem disk_informed (lister : Lister) (world : World) : (lister.informed world).disk = world.disk := by
  rw [informed, livePods?]
  split
  · have served : (World.serve (.cluster .listPods) world).2.disk = world.disk := rfl
    change (Program.run World.serve (Program.ask (I := interface) (.cluster .listPods) _) world).2.disk = _
    rw [Program.run]
    generalize World.serve (.cluster .listPods) world = answered at served
    obtain ⟨_ | _, _⟩ := answered <;> exact served
  · rfl

theorem run_search_missing (missing : world.disk.pathExists lister.directory = false) :
    lister.search.run World.serve world = (.ok [], world) := by
  have asked : World.serve (.pathExists lister.directory) world = (false, world) := by
    rw [← missing]
    rfl
  change Program.run World.serve (Program.ask (I := interface) (.pathExists lister.directory) _) world = _
  rw [Program.run, asked]
  rfl

theorem run_search (there : world.disk.pathExists lister.directory = true) :
    lister.search.run World.serve world =
      match world.disk.readDirectory lister.directory with
      | .error _ => (.error (.readDirectory lister.directory.text), lister.informed world)
      | .ok names => (.ok (lister.scanFinds (lister.told world) names world.disk),
          { lister.informed world with disk := lister.scanned (lister.told world) names world.disk }) := by
  have asked : World.serve (.pathExists lister.directory) world = (true, world) := by
    rw [← there]
    rfl
  change Program.run World.serve (Program.ask (I := interface) (.pathExists lister.directory) _) world = _
  rw [Program.run, asked]
  refine (World.run_program_bind (rfl : _ = (lister.told world, lister.informed world)) _).trans ?_
  have read : World.serve (.readDirectory lister.directory) (lister.informed world) =
      (world.disk.readDirectory lister.directory, lister.informed world) := by
    rw [← disk_informed lister world]
    rfl
  change Program.run World.serve (Program.ask (I := interface) (.readDirectory lister.directory) _) _ = _
  rw [Program.run, read]
  cases world.disk.readDirectory lister.directory with
  | error error => rfl
  | ok names =>
    refine (World.run_program_bind (run_scan lister _ names _) _).trans ?_
    rw [disk_informed]
    rfl

/-! ## What is taken away -/

/-- Entries that a search takes away: they lead to directories of pods that are gone, and afterwards no entry
does. -/
structure TakesAway (lister : Lister) (live : Option (List String)) (before after : Disk) (root : Location)
    (gone : List String) : Prop where
  place : ∀ location mode, before.resolve true lister.directory = .ok (location, some (.directory mode)) →
    location = root
  departed : ∀ name ∈ gone, IsName name ∧ isGone live name = true ∧
    before.isDirectory (lister.directory.join name) = true
  remains : after = before.without root gone
  none_left : ∀ name, IsName name → isGone live name = true →
    after.isDirectory (lister.directory.join name) = false

theorem owner_of_isGone (departed : isGone live name = true) : (ownerOf? name).isSome := by
  rw [isGone, Option.any_eq_true] at departed
  obtain ⟨owner, owned, -⟩ := departed
  rw [owned]
  rfl

theorem isEntryName_of_isSome (owned : (ownerOf? name).isSome) (is : IsName name) : IsEntryName name := by
  obtain ⟨owner, owned⟩ := Option.isSome_iff_exists.1 owned
  exact isEntryName_of_owner owned is

theorem visited_within (lister : Lister) (live : Option (List String)) (name : String) (disk : Disk)
    (is : IsName name) : (lister.visited live name disk).Within disk := by
  rw [visited]
  split
  · next removes =>
    obtain ⟨root, mode, -, removed⟩ :=
      Disk.removeTree_join (isEntryName_of_isSome (owner_of_isGone removes.1) is) removes.2
    rw [removed]
    exact Disk.within_without disk root [name]
  · exact .refl disk

theorem scanned_within (lister : Lister) (live : Option (List String)) (disk : Disk)
    (are : ∀ name ∈ names, IsName name) : (lister.scanned live names disk).Within disk := by
  induction names generalizing disk with
  | nil => exact .refl disk
  | cons name names ih =>
    obtain ⟨is, are⟩ := List.forall_mem_cons.1 are
    exact (ih _ are).trans (visited_within lister live name disk is)

/-- Visits to some names take entries away, and leave none of these names that leads to a directory of a pod that
is gone. -/
theorem scanned_spec (lister : Lister) (live : Option (List String)) (disk : Disk)
    (are : ∀ name ∈ names, IsName name)
    (place : ∀ location mode, disk.resolve true lister.directory = .ok (location, some (.directory mode)) →
      location = root) :
    ∃ gone, (∀ name ∈ gone, IsName name ∧ isGone live name = true ∧
        disk.isDirectory (lister.directory.join name) = true) ∧
      lister.scanned live names disk = disk.without root gone ∧
      ∀ name ∈ names, isGone live name = true →
        (lister.scanned live names disk).isDirectory (lister.directory.join name) = false := by
  induction names generalizing disk with
  | nil => exact ⟨[], nofun, (disk.without_nil root).symm, nofun⟩
  | cons name names ih =>
    obtain ⟨is, are⟩ := List.forall_mem_cons.1 are
    by_cases removes : isGone live name = true ∧ disk.isDirectory (lister.directory.join name) = true
    · have entry := isEntryName_of_isSome (owner_of_isGone removes.1) is
      obtain ⟨location, mode, leads, removed⟩ := Disk.removeTree_join entry removes.2
      obtain rfl := place location mode leads
      have next : lister.visited live name disk = disk.without location [name] := by
        rw [visited, if_pos removes, removed]
      have less : (disk.without location [name]).Within disk := Disk.within_without disk location [name]
      rw [scanned, next]
      obtain ⟨gone, departed, after, left⟩ :=
        ih (disk.without location [name]) are fun other mode leads => place other mode (Disk.resolve_within less leads)
      rw [Disk.without_without] at after
      refine ⟨name :: gone, List.forall_mem_cons.2 ⟨⟨is, removes⟩, fun other among => ?_⟩, after,
        List.forall_mem_cons.2 ⟨fun _ => ?_, left⟩⟩
      · obtain ⟨isName, departed, leads⟩ := departed other among
        exact ⟨isName, departed, Disk.isDirectory_within less leads⟩
      · rw [after]
        exact Disk.isDirectory_without entry List.mem_cons_self leads
    · have next : lister.visited live name disk = disk := if_neg removes
      rw [scanned, next]
      obtain ⟨gone, departed, after, left⟩ := ih disk are place
      refine ⟨gone, departed, after, List.forall_mem_cons.2 ⟨fun departed => ?_, left⟩⟩
      refine Bool.eq_false_iff.2 fun leads => removes ⟨departed, ?_⟩
      exact Disk.isDirectory_within (scanned_within lister live disk are) leads

/-! ## What is found -/

def IsRegionFile (lister : Lister) (disk : Disk) (path : Path) : Prop :=
  ∃ name, IsName name ∧ (ownerOf? name).isSome ∧ path ∈ filesIn disk (lister.directory.join name)

theorem mem_filesIn : path ∈ filesIn disk directory ↔ ∃ names file, disk.readDirectory directory = .ok names ∧
    file ∈ names ∧ isRegionName file = true ∧ path = directory.join file := by
  rw [filesIn]
  cases disk.readDirectory directory with
  | error error => simp
  | ok names =>
    simp only [List.mem_map, List.mem_filter, and_assoc, Except.ok.injEq, exists_and_left, exists_eq_left']
    grind

theorem filesIn_within (within : after.Within disk) : filesIn after directory ⊆ filesIn disk directory := by
  intro path member
  obtain ⟨names, file, reads, among, region, rfl⟩ := mem_filesIn.1 member
  obtain ⟨more, reads, among'⟩ := Disk.readDirectory_within within reads
  exact mem_filesIn.2 ⟨more, file, reads, among' among, region, rfl⟩

theorem IsRegionFile.within (region : lister.IsRegionFile after path) (within : after.Within disk) :
    lister.IsRegionFile disk path := by
  obtain ⟨name, is, owned, member⟩ := region
  exact ⟨name, is, owned, filesIn_within within member⟩

theorem isRegionPath_of_filesIn (names : disk.HasNames) (owned : (ownerOf? name).isSome) (is : IsName name)
    (member : path ∈ filesIn disk (lister.directory.join name)) : lister.IsRegionPath path := by
  obtain ⟨files, file, reads, among, region, rfl⟩ := mem_filesIn.1 member
  exact ⟨name, file, isEntryName_of_isSome owned is,
    isEntryName_of_region region (names.readDirectory reads file among), rfl⟩

theorem mem_visitFinds : path ∈ lister.visitFinds live name disk ↔
    (ownerOf? name).isSome ∧ isGone live name = false ∧ path ∈ filesIn disk (lister.directory.join name) := by
  rw [visitFinds]
  split <;> simp_all

theorem hasNames_visited (names : disk.HasNames) (lister : Lister) (live : Option (List String)) (name : String) :
    (lister.visited live name disk).HasNames := by
  rw [visited]
  split
  · exact names.removeTree _
  · exact names

/-- Whatever is found was listed in the directory of a container whose pod is not known to be gone. -/
theorem of_mem_scanFinds (are : ∀ name ∈ names, IsName name) (member : path ∈ lister.scanFinds live names disk) :
    ∃ name ∈ names, (ownerOf? name).isSome ∧ isGone live name = false ∧
      path ∈ filesIn disk (lister.directory.join name) := by
  induction names generalizing disk with
  | nil => cases member
  | cons name names ih =>
    obtain ⟨is, are⟩ := List.forall_mem_cons.1 are
    obtain here | later := List.mem_append.1 (mem_append_of_foldr member)
    · exact ⟨name, List.mem_cons_self, mem_visitFinds.1 here⟩
    · obtain ⟨other, among, owned, alive, listed⟩ := ih are later
      exact ⟨other, List.mem_cons_of_mem _ among, owned, alive,
        filesIn_within (visited_within lister live name disk is) listed⟩

theorem isRegionPath_of_scanFinds (hasNames : disk.HasNames) (are : ∀ name ∈ names, IsName name)
    (member : path ∈ lister.scanFinds live names disk) : lister.IsRegionPath path := by
  obtain ⟨name, among, owned, -, listed⟩ := of_mem_scanFinds are member
  exact isRegionPath_of_filesIn hasNames owned (are name among) listed

/-- Whatever is still listed in the end was found. -/
theorem mem_scanFinds (hasNames : disk.HasNames) (are : ∀ name ∈ names, IsName name) (among : name ∈ names)
    (owned : (ownerOf? name).isSome) (alive : isGone live name = false)
    (listed : path ∈ filesIn (lister.scanned live names disk) (lister.directory.join name)) :
    path ∈ lister.scanFinds live names disk := by
  induction names generalizing disk with
  | nil => cases among
  | cons first names ih =>
    obtain ⟨is, others⟩ := List.forall_mem_cons.1 are
    have next := hasNames_visited hasNames lister live first
    have all : ∀ path ∈ lister.visitFinds live first disk ++
        lister.scanFinds live names (lister.visited live first disk), lister.IsRegionPath path := by
      intro path member
      obtain here | later := List.mem_append.1 member
      · obtain ⟨owned, -, listed⟩ := mem_visitFinds.1 here
        exact isRegionPath_of_filesIn hasNames owned is listed
      · exact isRegionPath_of_scanFinds next others later
    refine mem_foldr_insertPath all path (List.mem_append.2 ?_)
    obtain rfl | later := List.mem_cons.1 among
    · exact .inl (mem_visitFinds.2 ⟨owned, alive, filesIn_within (scanned_within lister live disk are) listed⟩)
    · exact .inr (ih next others later listed)

end GpuShare.Agent.Lister
