import GpuShare.Proofs.Agent.MonitorRound
import GpuShare.Proofs.Agent.StateFile

/-!
What the answers to an update say about the region of a container. If they show the region, and its pod where the
pods are told, then the update spares the directory and maps the region, unless it ends before at another file
whose header does not fit the layout.
-/

set_option autoImplicit false

namespace GpuShare.Agent.Lister

open Cluster Program GpuShare.Path

variable {lister : Lister} {mapped after : Mapped} {found files : List Path} {path other : Path}
  {exchanges more : List (Exchange interface)} {outcome : Except ListerError Unit}
  {uid name container file : String} {content : Nat} {live : Option (List String)} {names : List String}

/-! ## Paths of region files -/

def IsRegionPath (lister : Lister) (path : Path) : Prop :=
  ∃ name file, IsEntryName name ∧ IsEntryName file ∧ path = (lister.directory.join name).join file

theorem IsRegionPath.eq (first : lister.IsRegionPath path) (second : lister.IsRegionPath other)
    (same : path.components = other.components) : path = other := by
  obtain ⟨a, b, isA, isB, rfl⟩ := first
  obtain ⟨c, d, isC, isD, rfl⟩ := second
  simp only [components_join isA, components_join isB, components_join isC, components_join isD,
    List.append_assoc, List.append_cancel_left_eq, List.singleton_append, List.cons.injEq, and_true] at same
  obtain ⟨rfl, rfl⟩ := same
  rfl

theorem isEntryName_of_owner {owner : String × String} (owned : ownerOf? name = some owner)
    (is : IsName name) : IsEntryName name := by
  refine ⟨is, ?_, ?_, ?_⟩
  all_goals
    rintro rfl
    cases owned

theorem isEntryName_of_region (region : isRegionName file = true) (is : IsName file) : IsEntryName file := by
  refine ⟨is, ?_, ?_, ?_⟩
  all_goals
    rintro rfl
    exact absurd region (by decide)

-- A path that no other path is taken for is there after it was put at its place.
theorem mem_insertPath_of_apart
    (apart : ∀ other ∈ found, path.components = other.components → path = other) :
    path ∈ insertPath path found ∧ found ⊆ insertPath path found := by
  induction found with
  | nil => simp [insertPath]
  | cons head tail ih =>
    obtain ⟨here, later⟩ := List.forall_mem_cons.1 apart
    rw [insertPath]
    split
    · next same => simp [here same]
    split
    · simp
    · obtain ⟨member, kept⟩ := ih later
      exact ⟨List.mem_cons_of_mem _ member, List.cons_subset_cons _ kept⟩

theorem mem_append_of_foldr (member : path ∈ files.foldr insertPath found) : path ∈ files ++ found := by
  induction files with
  | nil => exact member
  | cons first files ih =>
    obtain rfl | later := mem_insertPath member
    · exact List.mem_cons_self
    · exact List.mem_cons_of_mem _ (ih later)

theorem mem_foldr_insertPath (all : ∀ path ∈ files ++ found, lister.IsRegionPath path) :
    ∀ path ∈ files ++ found, path ∈ files.foldr insertPath found := by
  induction files with
  | nil => exact fun path => id
  | cons first files ih =>
    rw [List.cons_append, List.forall_mem_cons] at all ⊢
    have apart : ∀ other ∈ files.foldr insertPath found,
        first.components = other.components → first = other :=
      fun other among => all.1.eq (all.2 other (mem_append_of_foldr among))
    obtain ⟨member, kept⟩ := mem_insertPath_of_apart apart
    exact ⟨member, fun path among => kept (ih all.2 path among)⟩

/-! ## The search -/

def TellsNames (exchanges : List (Exchange interface)) : Prop :=
  ∀ path names, ⟨.readDirectory path, .ok names⟩ ∈ exchanges → ∀ name ∈ names, IsName name

theorem TellsNames.of_subset (tells : TellsNames exchanges) (among : more ⊆ exchanges) : TellsNames more :=
  fun path names member => tells path names (among member)

/-- Answers that show the region of a container: its directory among others, the file among others in it, and
the content of the file. -/
structure ShowsRegion (lister : Lister) (name file : String) (content : Nat)
    (exchanges : List (Exchange interface)) : Prop where
  there : ∀ answer, ⟨.pathExists lister.directory, answer⟩ ∈ exchanges → answer = true
  listed : ∀ answer, ⟨.readDirectory lister.directory, answer⟩ ∈ exchanges →
    ∃ names, answer = .ok names ∧ name ∈ names
  isDirectory : ∀ answer, ⟨.isDirectory (lister.directory.join name), answer⟩ ∈ exchanges → answer = true
  files : ∀ answer, ⟨.readDirectory (lister.directory.join name), answer⟩ ∈ exchanges →
    ∃ names, answer = .ok names ∧ file ∈ names
  maps : ∀ answer, ⟨.mapRegion ((lister.directory.join name).join file), answer⟩ ∈ exchanges →
    answer = .ok content

theorem ShowsRegion.of_subset (shows : ShowsRegion lister name file content exchanges)
    (among : more ⊆ exchanges) : ShowsRegion lister name file content more :=
  ⟨fun answer member => shows.there answer (among member), fun answer member => shows.listed answer (among member),
    fun answer member => shows.isDirectory answer (among member),
    fun answer member => shows.files answer (among member),
    fun answer member => shows.maps answer (among member)⟩

/-- Only other entries of the directory are removed. -/
def Spares (lister : Lister) (name : String) (exchanges : List (Exchange interface)) : Prop :=
  ∀ path answer, ⟨.removeTree path, answer⟩ ∈ exchanges →
    ∃ other, IsEntryName other ∧ other ≠ name ∧ path = lister.directory.join other

structure IsRegionOf (uid container name file : String) : Prop where
  owner : ownerOf? name = some (uid, container)
  isName : IsEntryName name
  isFile : IsEntryName file
  isRegion : isRegionName file = true

theorem regionFiles_ends {directory : Path} (ends : (regionFiles directory).Ends exchanges files) :
    ∃ answer, exchanges = [⟨.readDirectory directory, answer⟩] ∧
      ((∃ names, answer = .ok names ∧ files = (names.filter isRegionName).map directory.join) ∨
        (∃ error, answer = .error error) ∧ files = []) := by
  obtain ⟨answer, rest, rfl, ends⟩ := ends
  cases answer with
  | ok names =>
    obtain ⟨rfl, rfl⟩ := ends
    exact ⟨_, rfl, .inl ⟨names, rfl, rfl⟩⟩
  | error error =>
    obtain ⟨rfl, rfl⟩ := ends
    exact ⟨_, rfl, .inr ⟨⟨error, rfl⟩, rfl⟩⟩

inductive Visit (lister : Lister) (live : Option (List String)) (name : String) :
    List (Exchange interface) → List Path → Prop where
  | other : Visit lister live name [⟨.isDirectory (lister.directory.join name), false⟩] []
  | unowned : ownerOf? name = none →
      Visit lister live name [⟨.isDirectory (lister.directory.join name), true⟩] []
  | removed {owner : String × String} {answer : Except FileError Unit} : ownerOf? name = some owner →
      isDeparted live owner.1 = true → Visit lister live name
        [⟨.isDirectory (lister.directory.join name), true⟩, ⟨.removeTree (lister.directory.join name), answer⟩] []
  | unread {owner : String × String} {error : FileError} : ownerOf? name = some owner →
      isDeparted live owner.1 = false → Visit lister live name
        [⟨.isDirectory (lister.directory.join name), true⟩,
          ⟨.readDirectory (lister.directory.join name), .error error⟩] []
  | read {owner : String × String} {names : List String} : ownerOf? name = some owner →
      isDeparted live owner.1 = false → Visit lister live name
        [⟨.isDirectory (lister.directory.join name), true⟩,
          ⟨.readDirectory (lister.directory.join name), .ok names⟩]
        ((names.filter isRegionName).map (lister.directory.join name).join)

theorem visit_of_ends (ends : (lister.visit live name).Ends exchanges files) :
    Visit lister live name exchanges files := by
  obtain ⟨is, rest, rfl, ends⟩ := ends
  cases is with
  | false =>
    obtain ⟨rfl, rfl⟩ := ends
    exact .other
  | true =>
    dsimp only at ends
    cases owned : ownerOf? name with
    | none =>
      rw [owned] at ends
      obtain ⟨rfl, rfl⟩ := ends
      exact .unowned owned
    | some owner =>
      rw [owned] at ends
      change Program.Ends (if isDeparted live owner.1 then _ else _) _ _ at ends
      split at ends
      · next departed =>
        obtain ⟨answer, rest, rfl, rfl, rfl⟩ := ends
        exact .removed owned departed
      · next lives =>
        have lives := Bool.eq_false_iff.2 lives
        obtain ⟨answer, rfl, ⟨names, rfl, rfl⟩ | ⟨⟨error, rfl⟩, rfl⟩⟩ := regionFiles_ends ends
        · exact .read owned lives
        · exact .unread owned lives

theorem Visit.areRegionPaths (visit : Visit lister live name exchanges files) (is : IsName name)
    (entries : TellsNames exchanges) : ∀ path ∈ files, lister.IsRegionPath path := by
  cases visit with
  | read owned _ =>
    refine List.forall_mem_map.2 fun file member => ?_
    obtain ⟨told, region⟩ := List.mem_filter.1 member
    have isFile := entries _ _ (List.mem_cons_of_mem _ List.mem_cons_self) file told
    exact ⟨name, file, isEntryName_of_owner owned is, isEntryName_of_region region isFile, rfl⟩
  | _ => nofun

theorem Visit.finds (visit : Visit lister live name exchanges files)
    (shows : ShowsRegion lister name file content exchanges) (of : IsRegionOf uid container name file)
    (lives : isDeparted live uid = false) : (lister.directory.join name).join file ∈ files := by
  cases visit with
  | other => cases shows.isDirectory false List.mem_cons_self
  | unowned nobody => cases nobody.symm.trans of.owner
  | removed owned departed =>
    cases owned.symm.trans of.owner
    cases lives.symm.trans departed
  | unread => obtain ⟨names, ⟨⟩, -⟩ := shows.files _ (List.mem_cons_of_mem _ List.mem_cons_self)
  | read owned _ =>
    obtain ⟨names, same, member⟩ := shows.files _ (List.mem_cons_of_mem _ List.mem_cons_self)
    cases same
    exact List.mem_map_of_mem (List.mem_filter.2 ⟨member, of.isRegion⟩)

theorem Visit.spares {other : String} (visit : Visit lister live other exchanges files) (is : IsName other)
    (owner : ownerOf? name = some (uid, container)) (lives : isDeparted live uid = false) :
    Spares lister name exchanges := by
  intro path answer member
  cases visit with
  | removed owned departed =>
    obtain ⟨⟩ | ⟨_, ⟨⟩ | ⟨_, ⟨⟩⟩⟩ := member
    refine ⟨other, isEntryName_of_owner owned is, ?_, rfl⟩
    -- The pod of this entry is gone, and the other one is not.
    rintro rfl
    cases owned.symm.trans owner
    cases lives.symm.trans departed
  | other | unowned => obtain ⟨⟩ | ⟨_, ⟨⟩⟩ := member
  | unread | read => obtain ⟨⟩ | ⟨_, ⟨⟩ | ⟨_, ⟨⟩⟩⟩ := member

structure Scans (lister : Lister) (live : Option (List String)) (names : List String)
    (exchanges : List (Exchange interface)) (found : List Path) : Prop where
  regions : ∀ path ∈ found, lister.IsRegionPath path
  visits : ∀ name ∈ names, ∃ visiting files, Visit lister live name visiting files ∧
    visiting ⊆ exchanges ∧ files ⊆ found
  all : ∀ exchange ∈ exchanges, ∃ name ∈ names, ∃ visiting files, Visit lister live name visiting files ∧
    exchange ∈ visiting

theorem scans_of_ends (told : ∀ name ∈ names, IsName name) (entries : TellsNames exchanges)
    (ends : (lister.scan live names).Ends exchanges found) : Scans lister live names exchanges found := by
  induction names generalizing exchanges found with
  | nil =>
    obtain ⟨rfl, rfl⟩ := ends
    exact ⟨nofun, nofun, List.forall_mem_nil _⟩
  | cons first names ih =>
    obtain ⟨here, told⟩ := List.forall_mem_cons.1 told
    obtain ⟨files, visiting, rest, rfl, visits, ends⟩ := Program.ends_bind.1 ends
    obtain ⟨others, scanning, rest, rfl, scans, rfl, rfl⟩ := Program.ends_bind.1 ends
    rw [List.append_nil] at entries ⊢
    have visit := visit_of_ends visits
    have left := List.subset_append_left visiting scanning
    have right := List.subset_append_right visiting scanning
    have later := ih told (entries.of_subset right) scans
    have all : ∀ path ∈ files ++ others, lister.IsRegionPath path :=
      List.forall_mem_append.2 ⟨visit.areRegionPaths here (entries.of_subset left), later.regions⟩
    have kept := mem_foldr_insertPath all
    refine ⟨fun path member => all path (mem_append_of_foldr member), ?_, ?_⟩
    · refine List.forall_mem_cons.2 ⟨⟨visiting, files, visit, left, fun path member => ?_⟩, ?_⟩
      · exact kept path (List.mem_append_left _ member)
      · intro name member
        obtain ⟨visiting, files, visit, among, subset⟩ := later.visits name member
        exact ⟨visiting, files, visit, List.Subset.trans among right,
          fun path member => kept path (List.mem_append_right _ (subset member))⟩
    · refine List.forall_mem_append.2 ⟨fun exchange member => ?_, fun exchange member => ?_⟩
      · exact ⟨first, List.mem_cons_self, visiting, files, visit, member⟩
      · obtain ⟨name, among, visited⟩ := later.all exchange member
        exact ⟨name, List.mem_cons_of_mem _ among, visited⟩

/-- If the pods are told, there is one of a UID on the lister's node among them. -/
def TellsPod (lister : Lister) (uid : String) (exchanges : List (Exchange interface)) : Prop :=
  lister.asksCluster = true → ∀ pods, ⟨.cluster .listPods, .ok pods⟩ ∈ exchanges → uid ∈ lister.podUids pods

theorem TellsPod.of_subset (tells : TellsPod lister uid exchanges) (among : more ⊆ exchanges) :
    TellsPod lister uid more :=
  fun may pods member => tells may pods (among member)

theorem livePods?_ends (tells : TellsPod lister uid exchanges) (ends : lister.livePods?.Ends exchanges live) :
    isDeparted live uid = false ∧ ∀ exchange ∈ exchanges, exchange.request = .cluster .listPods := by
  rw [livePods?] at ends
  split at ends
  · next may =>
    obtain ⟨answer, rest, rfl, ends⟩ := ends
    cases answer with
    | ok pods =>
      obtain ⟨rfl, rfl⟩ := ends
      have listed := tells may pods List.mem_cons_self
      exact ⟨by simpa [isDeparted] using listed, by simp⟩
    | error error =>
      obtain ⟨rfl, rfl⟩ := ends
      exact ⟨rfl, by simp⟩
  · obtain ⟨rfl, rfl⟩ := ends
    exact ⟨rfl, List.forall_mem_nil _⟩

inductive Search (lister : Lister) :
    List (Exchange interface) → Except ListerError (List Path) → Prop where
  | missing : Search lister [⟨.pathExists lister.directory, false⟩] (.ok [])
  | unread {live : Option (List String)} {listing : List (Exchange interface)} {error : FileError} :
      lister.livePods?.Ends listing live → Search lister
        (⟨.pathExists lister.directory, true⟩ :: (listing ++ [⟨.readDirectory lister.directory, .error error⟩]))
        (.error (.readDirectory lister.directory.text))
  | scanned {live : Option (List String)} {names : List String} {found : List Path}
      {listing scanning : List (Exchange interface)} :
      lister.livePods?.Ends listing live → (lister.scan live names).Ends scanning found → Search lister
        (⟨.pathExists lister.directory, true⟩ ::
          (listing ++ ⟨.readDirectory lister.directory, .ok names⟩ :: scanning)) (.ok found)

theorem search_of_ends {result : Except ListerError (List Path)}
    (ends : lister.search.Ends exchanges result) : Search lister exchanges result := by
  obtain ⟨there, rest, rfl, ends⟩ := ends
  cases there with
  | false =>
    obtain ⟨rfl, rfl⟩ := ends
    exact .missing
  | true =>
    change Program.Ends (lister.livePods? >>= fun live => _) _ _ at ends
    obtain ⟨live, listing, rest, rfl, lists, reads⟩ := Program.ends_bind.1 ends
    obtain ⟨answer, rest, rfl, goes⟩ := reads
    cases answer with
    | error error =>
      obtain ⟨rfl, rfl⟩ := goes
      exact .unread lists
    | ok names =>
      change Program.Ends (lister.scan live names >>= fun found => _) _ _ at goes
      obtain ⟨found, scanning, rest, rfl, scans, rfl, rfl⟩ := Program.ends_bind.1 goes
      rw [List.append_nil]
      exact .scanned lists scans

section Searches

variable {result : Except ListerError (List Path)} {listing scanning : List (Exchange interface)}
  {first last : Exchange interface}

theorem listing_subset : listing ⊆ first :: (listing ++ last :: scanning) := fun exchange member => by
  simp [member]

theorem scanning_subset : scanning ⊆ first :: (listing ++ last :: scanning) := fun exchange member => by
  simp [member]

theorem mem_listed : last ∈ first :: (listing ++ last :: scanning) := by simp

theorem Search.spares (search : Search lister exchanges result) (entries : TellsNames exchanges)
    (owner : ownerOf? name = some (uid, container)) (tells : TellsPod lister uid exchanges) :
    Spares lister name exchanges := by
  intro path answer member
  cases search with
  | missing => obtain ⟨⟩ | ⟨_, ⟨⟩⟩ := member
  | unread lists =>
    obtain ⟨-, asks⟩ := livePods?_ends (tells.of_subset listing_subset) lists
    obtain ⟨⟩ | ⟨_, member⟩ := member
    rcases List.mem_append.1 member with asked | asked
    · cases asks _ asked
    · cases List.mem_singleton.1 asked
  | scanned lists scans =>
    obtain ⟨lives, asks⟩ := livePods?_ends (tells.of_subset listing_subset) lists
    have told := entries _ _ mem_listed
    have scans := scans_of_ends told (entries.of_subset scanning_subset) scans
    obtain ⟨⟩ | ⟨_, member⟩ := member
    rcases List.mem_append.1 member with asked | asked
    · cases asks _ asked
    obtain ⟨⟩ | ⟨_, asked⟩ := asked
    obtain ⟨other, among, visiting, files, visit, visited⟩ := scans.all _ asked
    exact visit.spares (told other among) owner lives path answer visited

theorem Search.finds (search : Search lister exchanges result) (entries : TellsNames exchanges)
    (shows : ShowsRegion lister name file content exchanges) (of : IsRegionOf uid container name file)
    (tells : TellsPod lister uid exchanges) :
    ∃ found, result = .ok found ∧ (lister.directory.join name).join file ∈ found := by
  cases search with
  | missing => cases shows.there false List.mem_cons_self
  | unread =>
    obtain ⟨names, ⟨⟩, -⟩ := shows.listed _ mem_listed
  | scanned lists scans =>
    obtain ⟨lives, -⟩ := livePods?_ends (tells.of_subset listing_subset) lists
    have scans := scans_of_ends (entries _ _ mem_listed) (entries.of_subset scanning_subset) scans
    obtain ⟨names, same, member⟩ := shows.listed _ mem_listed
    cases same
    obtain ⟨visiting, files, visit, among, within⟩ := scans.visits name member
    have seen := shows.of_subset (List.Subset.trans among scanning_subset)
    exact ⟨_, rfl, within (visit.finds seen of lives)⟩

end Searches

/-! ## The mapping -/

inductive MapsNext (path : Path) (found : List Path) (mapped : Mapped) (outcome : Except ListerError Unit)
    (after : Mapped) : List (Exchange interface) → Prop where
  | held {exchanges : List (Exchange interface)} : mapped.contains path = true →
      (mapNew found mapped).Ends exchanges (outcome, after) → MapsNext path found mapped outcome after exchanges
  | maps {exchanges : List (Exchange interface)} {content : Nat} : mapped.contains path = false →
      (mapNew found (mapped.insert path content)).Ends exchanges (outcome, after) →
      MapsNext path found mapped outcome after (⟨.mapRegion path, .ok content⟩ :: exchanges)
  | stops {reason : String} : mapped.contains path = false → outcome = .error (.layout path.text reason) →
      after = mapped →
      MapsNext path found mapped outcome after [⟨.mapRegion path, .error (.layoutViolation reason)⟩]
  | fails {exchanges : List (Exchange interface)} {error : RegionError} : mapped.contains path = false →
      (mapNew found mapped).Ends exchanges (outcome, after) →
      MapsNext path found mapped outcome after (⟨.mapRegion path, .error error⟩ :: exchanges)

theorem mapsNext_of_ends (ends : (mapNew (path :: found) mapped).Ends exchanges (outcome, after)) :
    MapsNext path found mapped outcome after exchanges := by
  rw [mapNew] at ends
  split at ends
  · next held => exact .held held ends
  · next absent =>
    have isNew := Bool.eq_false_iff.2 absent
    obtain ⟨answer, rest, rfl, ends⟩ := ends
    rcases answer with (_ | _ | _ | reason) | content
    · exact .fails isNew ends
    · exact .fails isNew ends
    · exact .fails isNew ends
    · obtain ⟨rfl, same⟩ := ends
      cases same
      exact .stops isNew rfl rfl
    · exact .fails isNew ends
    · exact .maps isNew ends

theorem mapNew_keeps (ends : (mapNew found mapped).Ends exchanges (outcome, after)) :
    ∀ entry ∈ mapped, entry ∈ after := by
  induction found generalizing mapped exchanges with
  | nil =>
    obtain ⟨-, same⟩ := ends
    cases same
    exact fun entry => id
  | cons path found ih =>
    cases mapsNext_of_ends ends with
    | held _ goes => exact ih goes
    | maps _ goes => exact fun entry member => ih goes entry (Mapped.mem_insert.2 (.inr member))
    | stops _ _ same => exact fun entry member => same ▸ member
    | fails _ goes => exact ih goes

/-- An update ends early at a file that was not mapped yet and comes before a path, as its header does not fit the
layout. -/
structure StopsBefore (mapped : Mapped) (path : Path) (exchanges : List (Exchange interface))
    (outcome : Except ListerError Unit) (other : Path) (reason : String) : Prop where
  earlier : other.isBefore path = true
  isNew : mapped.contains other = false
  refused : ⟨.mapRegion other, .error (.layoutViolation reason)⟩ ∈ exchanges
  ended : outcome = .error (.layout other.text reason)

theorem StopsBefore.mono {fewer : Mapped} {reason : String}
    (stops : StopsBefore mapped path exchanges outcome other reason) (kept : ∀ entry ∈ fewer, entry ∈ mapped)
    (among : exchanges ⊆ more) : StopsBefore fewer path more outcome other reason := by
  refine ⟨stops.earlier, Bool.eq_false_iff.2 fun held => ?_, among stops.refused, stops.ended⟩
  obtain ⟨entry, member, same⟩ := List.mem_map.1 (Mapped.contains_iff.1 held)
  have still := Mapped.contains_iff.2 (List.mem_map.2 ⟨entry, kept entry member, same⟩)
  cases stops.isNew.symm.trans still

-- A file that can be mapped is mapped, if nothing ends the mapping before it.
theorem mapNew_maps (ordered : InOrder found) (member : path ∈ found) (isNew : mapped.contains path = false)
    (maps : ∀ answer, ⟨.mapRegion path, answer⟩ ∈ exchanges → answer = .ok content)
    (ends : (mapNew found mapped).Ends exchanges (outcome, after)) :
    (path, content) ∈ after ∨
      ∃ other ∈ found, ∃ reason, StopsBefore mapped path exchanges outcome other reason := by
  induction found generalizing mapped exchanges with
  | nil => cases member
  | cons first found ih =>
    obtain ⟨before, ordered⟩ := List.pairwise_cons.1 ordered
    rcases List.mem_cons.1 member with rfl | later
    · -- The file is the next one.
      cases mapsNext_of_ends ends with
      | held held => cases isNew.symm.trans held
      | maps _ goes =>
        cases maps _ List.mem_cons_self
        exact .inl (mapNew_keeps goes _ (Mapped.mem_insert.2 (.inl rfl)))
      | stops => cases maps _ List.mem_cons_self
      | fails => cases maps _ List.mem_cons_self
    have differ : path ≠ first := fun same => ne_of_isBefore (before path later) same.symm
    have goesOn {now : Mapped} {rest : List (Exchange interface)} (among : rest ⊆ exchanges)
        (still : ∀ entry ∈ mapped, entry ∈ now) (new : now.contains path = false)
        (goes : (mapNew found now).Ends rest (outcome, after)) : (path, content) ∈ after ∨
          ∃ other ∈ first :: found, ∃ reason, StopsBefore mapped path exchanges outcome other reason := by
      obtain mapped | ⟨other, there, reason, stops⟩ :=
        ih ordered later new (fun answer asked => maps answer (among asked)) goes
      · exact .inl mapped
      · exact .inr ⟨other, List.mem_cons_of_mem _ there, reason, stops.mono still among⟩
    cases mapsNext_of_ends ends with
    | held _ goes => exact goesOn (List.Subset.refl _) (fun _ => id) isNew goes
    | maps _ goes =>
      refine goesOn (List.subset_cons_self _ _) (fun entry old => Mapped.mem_insert.2 (.inr old)) ?_ goes
      rwa [contains_insert differ]
    | stops fresh ended =>
      exact .inr ⟨first, List.mem_cons_self, _, before path later, fresh, List.mem_cons_self, ended⟩
    | fails _ goes => exact goesOn (List.subset_cons_self _ _) (fun _ => id) isNew goes

theorem mapNew_asks (found : List Path) (mapped : Mapped) :
    (mapNew found mapped).Asks fun request : Request => ∃ path, request = .mapRegion path := by
  induction found generalizing mapped with
  | nil => trivial
  | cons path found ih =>
    rw [mapNew]
    split
    · exact ih mapped
    · refine ⟨⟨path, rfl⟩, fun answer => ?_⟩
      rcases answer with (_ | _ | _) | content
      all_goals first | trivial | exact ih _

/-! ## Both -/

theorem update_ends (ends : (lister.update mapped).Ends exchanges (outcome, after)) :
    ∃ searching mapping result, exchanges = searching ++ mapping ∧ lister.search.Ends searching result ∧
      (mapFound mapped result).Ends mapping (outcome, after) := by
  rw [update_eq] at ends
  obtain ⟨result, searching, mapping, rfl, searches, goes⟩ := Program.ends_bind.1 ends
  exact ⟨searching, mapping, result, rfl, searches, goes⟩

theorem update_spares (entries : TellsNames exchanges) (owner : ownerOf? name = some (uid, container))
    (tells : TellsPod lister uid exchanges)
    (ends : (lister.update mapped).Ends exchanges (outcome, after)) : Spares lister name exchanges := by
  obtain ⟨searching, mapping, result, rfl, searches, goes⟩ := update_ends ends
  have left := List.subset_append_left searching mapping
  intro path answer member
  rcases List.mem_append.1 member with asked | asked
  · exact (search_of_ends searches).spares (entries.of_subset left) owner (tells.of_subset left) path answer asked
  · cases result with
    | error cause =>
      obtain ⟨rfl, -⟩ := goes
      cases asked
    | ok found =>
      obtain ⟨other, ⟨⟩⟩ := (mapNew_asks ..).of_ends goes _ asked

/-- An update watches a file that is there: it does not remove the directory of the file, and the file is mapped
after it, unless the update ends early. -/
structure Watches (lister : Lister) (name file : String) (content : Nat) (mapped : Mapped)
    (exchanges : List (Exchange interface)) (outcome : Except ListerError Unit) (after : Mapped) : Prop where
  spares : Spares lister name exchanges
  kept : ∀ earlier, (((lister.directory.join name).join file), earlier) ∈ mapped →
    (((lister.directory.join name).join file), earlier) ∈ after
  maps : mapped.contains ((lister.directory.join name).join file) = false →
    (((lister.directory.join name).join file), content) ∈ after ∨
      ∃ other reason, StopsBefore mapped ((lister.directory.join name).join file) exchanges outcome other reason

theorem update_watches (entries : TellsNames exchanges) (shows : ShowsRegion lister name file content exchanges)
    (of : IsRegionOf uid container name file) (tells : TellsPod lister uid exchanges)
    (ends : (lister.update mapped).Ends exchanges (outcome, after)) :
    Watches lister name file content mapped exchanges outcome after := by
  have spares := update_spares entries of.owner tells ends
  obtain ⟨searching, mapping, result, rfl, searches, goes⟩ := update_ends ends
  have left := List.subset_append_left searching mapping
  have right := List.subset_append_right searching mapping
  obtain ⟨found, rfl, member⟩ :=
    (search_of_ends searches).finds (entries.of_subset left) (shows.of_subset left) of (tells.of_subset left)
  have ordered : InOrder found := (search_gives lister).of_ends searches
  have goes : (mapNew found (stillThere found mapped)).Ends mapping (outcome, after) := goes
  refine ⟨spares, fun earlier old => ?_, fun isNew => ?_⟩
  · exact mapNew_keeps goes _ (List.mem_filter.2 ⟨old, by simpa using member⟩)
  · rw [← Monitor.contains_stillThere member] at isNew
    obtain mapped | ⟨other, there, reason, stops⟩ :=
      mapNew_maps ordered member isNew (shows.of_subset right).maps goes
    · exact .inl mapped
    · have isNew := stops.isNew
      rw [Monitor.contains_stillThere there] at isNew
      exact .inr ⟨other, reason, stops.earlier, isNew, right stops.refused, stops.ended⟩

end GpuShare.Agent.Lister
