import Mathlib.Data.List.Find
import Mathlib.Data.List.Pairwise
import GpuShare.Agent.Monitor
import GpuShare.Proofs.Region.Signals
import GpuShare.Proofs.File.Order
import GpuShare.Proofs.Agent.Alone
import GpuShare.Proofs.Agent.ListerProtocol

/-!
What an update does to the mapped regions. It is a search for region files, which writes to none of them,
and then the mapping of the new ones in path order, up to the first whose header does not fit the layout.
-/

set_option autoImplicit false

namespace GpuShare

namespace Region

theorem view_of_fits {bytes : ByteArray} (fits : Layout.size ≤ bytes.size) :
    view bytes = ⟨bytes, fits⟩ := dif_pos fits

end Region

namespace Agent

open Program GpuShare.Path

/-- The file at a path is long enough for a region, and its header does not fit the layout. -/
def hasBrokenHeader (disk : Disk) (path : Path) : Bool :=
  match disk.content? path with
  | .error _ => false
  | .ok content =>
    Region.Layout.size ≤ (disk.bytes content).size ∧
      ¬ (Region.view (disk.bytes content)).HasValidHeader

def IsSound (disk : Disk) (content : Nat) : Prop :=
  Region.Layout.size ≤ (disk.bytes content).size ∧
    (Region.view (disk.bytes content)).HasValidHeader

section Mapping

variable {disk : Disk} {path : Path} {content : Nat}

theorem mapRegion_of_broken (broken : hasBrokenHeader disk path = true) :
    ∃ reason, World.mapRegion disk path = .error (.layoutViolation reason) := by
  unfold hasBrokenHeader at broken
  cases leads : disk.content? path with
  | error error =>
    rw [leads] at broken
    cases broken
  | ok content =>
    simp only [leads, decide_eq_true_eq] at broken
    obtain ⟨fits, invalid⟩ := broken
    rw [Region.view_of_fits fits] at invalid
    obtain ⟨reason, refused⟩ := Region.validate_of_not_valid invalid
    refine ⟨reason, ?_⟩
    simp only [World.mapRegion, leads, Region.ofBytes, dif_pos fits, refused]
    rfl

theorem hasBrokenHeader_of_mapRegion {reason : String}
    (refused : World.mapRegion disk path = .error (.layoutViolation reason)) :
    hasBrokenHeader disk path = true := by
  unfold World.mapRegion at refused
  unfold hasBrokenHeader
  split at refused
  · cases refused
  · cases refused
  · next content leads =>
    simp only [leads, decide_eq_true_eq]
    rw [Region.ofBytes] at refused
    split at refused
    · next fits =>
      refine ⟨fits, fun valid => ?_⟩
      rw [Region.view_of_fits fits] at valid
      simp only [Region.validate_of_valid valid] at refused
      cases refused
    · cases refused

theorem isSound_of_mapRegion (maps : World.mapRegion disk path = .ok content) :
    disk.content? path = .ok content ∧ IsSound disk content := by
  unfold World.mapRegion at maps
  split at maps
  · cases maps
  · cases maps
  · next found leads =>
    rw [Region.ofBytes] at maps
    split at maps
    · next fits =>
      by_cases valid : (Region.mk (disk.bytes found) fits).HasValidHeader
      · simp only [Region.validate_of_valid valid] at maps
        obtain rfl : found = content := Except.ok.inj maps
        exact ⟨leads, fits, by rwa [Region.view_of_fits fits]⟩
      · obtain ⟨reason, refused⟩ := Region.validate_of_not_valid valid
        simp only [refused] at maps
        cases maps
    · cases maps

theorem mapRegion_of_isSound (leads : disk.content? path = .ok content) (sound : IsSound disk content) :
    World.mapRegion disk path = .ok content := by
  obtain ⟨fits, valid⟩ := sound
  rw [Region.view_of_fits fits] at valid
  simp only [World.mapRegion, leads, Region.ofBytes, dif_pos fits, Region.validate_of_valid valid]
  rfl

end Mapping

namespace Lister

variable {lister : Lister} {mapped after : Mapped} {found : List Path} {path : Path} {world : World}
  {disk : Disk} {outcome : Except ListerError Unit}

/-! ## The search -/

def search (lister : Lister) : Program interface (Except ListerError (List Path)) := do
  if ← Program.request (I := interface) (.pathExists lister.directory) then
    let live ← lister.livePods?
    match ← Program.request (I := interface) (.readDirectory lister.directory) with
    | .error _ => return .error (.readDirectory lister.directory.text)
    | .ok names => return .ok (← lister.scan live names)
  else return .ok []

def mapFound (mapped : Mapped) :
    Except ListerError (List Path) → Program interface (Except ListerError Unit × Mapped)
  | .error cause => return (.error cause, mapped)
  | .ok found => mapNew found (mapped.filter fun entry => found.contains entry.1)

theorem update_eq (lister : Lister) (mapped : Mapped) :
    lister.update mapped = lister.search >>= mapFound mapped := by
  refine congrArg (Program.ask (I := interface) (.pathExists _)) (funext fun there => ?_)
  cases there with
  | false =>
    show Program.done (Except.ok (), []) = mapFound mapped (.ok [])
    simp [mapFound, mapNew]
    rfl
  | true =>
    show (lister.livePods? >>= fun live => _) = (lister.livePods? >>= fun live => _) >>= _
    rw [LawfulMonad.bind_assoc]
    refine congrArg (lister.livePods? >>= ·) (funext fun live => ?_)
    refine congrArg (Program.ask (I := interface) (.readDirectory _)) (funext fun listing => ?_)
    cases listing with
    | error error => rfl
    | ok names =>
      show (lister.scan live names >>= _) = (lister.scan live names >>= fun found => _) >>= _
      rw [LawfulMonad.bind_assoc]
      rfl

theorem inOrder_foldr (files : List Path) (inOrder : InOrder found) :
    InOrder (files.foldr insertPath found) := by
  induction files with
  | nil => exact inOrder
  | cons path files ih => exact inOrder_insertPath ih path

theorem scan_inOrder (lister : Lister) (live : Option (List String)) (names : List String) :
    (lister.scan live names).Gives InOrder := by
  induction names with
  | nil => exact List.Pairwise.nil
  | cons name names ih =>
    refine gives_of_rest fun files => gives_bind ih fun found inOrder => ?_
    exact inOrder_foldr files inOrder

/-- Region files are found in path order, unless the directory cannot be read. -/
def Listing (lister : Lister) : Except ListerError (List Path) → Prop
  | .ok found => InOrder found
  | .error cause => cause = .readDirectory lister.directory.text

theorem search_gives (lister : Lister) : lister.search.Gives lister.Listing := by
  intro there
  cases there with
  | false => exact List.Pairwise.nil
  | true =>
    show (lister.livePods? >>= fun live => _).Gives _
    refine gives_of_rest fun live => fun listing => ?_
    cases listing with
    | error error => exact rfl
    | ok names =>
      show (lister.scan live names >>= fun found => _).Gives _
      exact gives_bind (scan_inOrder lister live names) fun found inOrder => inOrder

/-! ## The mapping -/

/-- A file that is not mapped yet and cannot be mapped, as its header does not fit the layout. -/
def refuses (disk : Disk) (mapped : Mapped) (path : Path) : Bool :=
  !mapped.contains path && hasBrokenHeader disk path

theorem refuses_eq_false (sound : ∀ reason, World.mapRegion disk path ≠ .error (.layoutViolation reason))
    (mapped : Mapped) : refuses disk mapped path = false := by
  rw [refuses, Bool.and_eq_false_iff]
  refine .inr (Bool.eq_false_iff.2 fun broken => ?_)
  obtain ⟨reason, refused⟩ := mapRegion_of_broken broken
  exact sound reason refused

structure MapsNew (disk : Disk) (found : List Path) (mapped : Mapped)
    (outcome : Except ListerError Unit) (after : Mapped) : Prop where
  kept : ∀ entry ∈ mapped, entry ∈ after
  new : ∀ entry ∈ after, entry ∈ mapped ∨ entry.1 ∈ found ∧ mapped.contains entry.1 = false ∧
    World.mapRegion disk entry.1 = .ok entry.2
  inOrder : InOrder after.paths
  done : found.find? (refuses disk mapped) = none → outcome = .ok () ∧
    ∀ path ∈ found, ∀ content, mapped.contains path = false →
      World.mapRegion disk path = .ok content → (path, content) ∈ after
  stopped : ∀ path, found.find? (refuses disk mapped) = some path → ∃ reason,
    World.mapRegion disk path = .error (.layoutViolation reason) ∧
      outcome = .error (.layout path.text reason)

theorem contains_insert {path other : Path} (differ : other ≠ path) (mapped : Mapped) (content : Nat) :
    (mapped.insert path content).contains other = mapped.contains other := by
  rw [Bool.eq_iff_iff, Mapped.contains_iff, Mapped.contains_iff]
  simp only [Mapped.paths, List.mem_map, Mapped.mem_insert]
  grind

theorem find?_refuses_insert {path : Path} (apart : path ∉ found) (mapped : Mapped) (content : Nat) :
    found.find? (refuses disk (mapped.insert path content)) = found.find? (refuses disk mapped) := by
  refine List.find?_congr fun other member => ?_
  have differ : other ≠ path := fun same => apart (same ▸ member)
  rw [refuses, refuses, contains_insert differ]

namespace MapsNew

-- The first file is mapped already, or is not ready to be mapped.
theorem pass (maps : MapsNew disk found mapped outcome after) (sound : refuses disk mapped path = false)
    (idle : mapped.contains path = true ∨ ∀ content, World.mapRegion disk path ≠ .ok content) :
    MapsNew disk (path :: found) mapped outcome after := by
  refine ⟨maps.kept, fun entry member => ?_, maps.inOrder, fun none => ?_, fun first refused => ?_⟩
  · rcases maps.new entry member with old | ⟨listed, isNew, mapped⟩
    · exact .inl old
    · exact .inr ⟨List.mem_cons_of_mem _ listed, isNew, mapped⟩
  · rw [List.find?_cons_of_neg (by simp [sound])] at none
    obtain ⟨ok, all⟩ := maps.done none
    refine ⟨ok, fun other member content isNew mapped => ?_⟩
    rcases List.mem_cons.1 member with rfl | later
    · rcases idle with held | never
      · rw [held] at isNew
        cases isNew
      · exact absurd mapped (never content)
    · exact all other later content isNew mapped
  · rw [List.find?_cons_of_neg (by simp [sound])] at refused
    exact maps.stopped first refused

theorem map {content : Nat} (maps : MapsNew disk found (mapped.insert path content) outcome after)
    (apart : path ∉ found) (isNew : mapped.contains path = false)
    (here : World.mapRegion disk path = .ok content) :
    MapsNew disk (path :: found) mapped outcome after := by
  have sound : refuses disk mapped path = false := by
    refine refuses_eq_false (fun reason refused => ?_) mapped
    rw [here] at refused
    cases refused
  have same : (path :: found).find? (refuses disk mapped) =
      found.find? (refuses disk (mapped.insert path content)) := by
    rw [List.find?_cons_of_neg (by simp [sound]), find?_refuses_insert apart]
  refine ⟨fun entry member => maps.kept entry (Mapped.mem_insert.2 (.inr member)),
    fun entry member => ?_, maps.inOrder, fun none => ?_, fun first refused => ?_⟩
  · rcases maps.new entry member with old | ⟨listed, fresh, mapped⟩
    · rcases Mapped.mem_insert.1 old with rfl | old
      · exact .inr ⟨List.mem_cons_self, isNew, here⟩
      · exact .inl old
    · have differ : entry.1 ≠ path := fun same => apart (same ▸ listed)
      rw [contains_insert differ] at fresh
      exact .inr ⟨List.mem_cons_of_mem _ listed, fresh, mapped⟩
  · rw [same] at none
    obtain ⟨ok, all⟩ := maps.done none
    refine ⟨ok, fun other member number fresh mapped => ?_⟩
    rcases List.mem_cons.1 member with rfl | later
    · obtain rfl := Except.ok.inj (here.symm.trans mapped)
      exact maps.kept _ (Mapped.mem_insert.2 (.inl rfl))
    · have differ : other ≠ path := fun same => apart (same ▸ later)
      rw [← contains_insert differ] at fresh
      exact all other later number fresh mapped
  · rw [same] at refused
    exact maps.stopped first refused

theorem stop {reason : String} (inOrder : InOrder mapped.paths) (isNew : mapped.contains path = false)
    (refused : World.mapRegion disk path = .error (.layoutViolation reason)) (found : List Path) :
    MapsNew disk (path :: found) mapped (.error (.layout path.text reason)) mapped := by
  have first : (path :: found).find? (refuses disk mapped) = some path := by
    refine List.find?_cons_of_pos ?_
    rw [refuses, isNew, hasBrokenHeader_of_mapRegion refused]
    rfl
  refine ⟨fun _ => id, fun _ => .inl, inOrder, fun none => ?_, fun other is => ?_⟩
  · rw [first] at none
    cases none
  · obtain rfl := Option.some.inj (first.symm.trans is)
    exact ⟨reason, refused, rfl⟩

end MapsNew

-- Two paths in path order are not told apart by their texts alone.
theorem components_ne {all : List Path} (ordered : InOrder all) {path other : Path}
    (here : path ∈ all) (there : other ∈ all) (differ : path ≠ other) :
    path.components ≠ other.components := by
  have apart : all.Pairwise fun a b => a.components ≠ b.components := by
    refine ordered.imp fun less same => ?_
    rw [isBefore, same, before_irrefl] at less
    cases less
  have symm : Std.Symm fun a b : Path => a.components ≠ b.components := ⟨fun _ _ => Ne.symm⟩
  exact apart.forall here there differ

theorem run_mapNext (fresh : mapped.contains path ≠ true) (found : List Path) (world : World) :
    (mapNew (path :: found) mapped).run World.serve world =
      match World.mapRegion world.disk path with
      | .ok content => (mapNew found (mapped.insert path content)).run World.serve world
      | .error (.layoutViolation reason) => ((.error (.layout path.text reason), mapped), world)
      | .error _ => (mapNew found mapped).run World.serve world := by
  rw [mapNew, if_neg fresh]
  have asked : World.serve (.mapRegion path) world = (World.mapRegion world.disk path, world) := rfl
  change Program.run World.serve (Program.ask (I := interface) (.mapRegion path) _) world = _
  rw [Program.run, asked]
  generalize World.mapRegion world.disk path = answer
  rcases answer with (_ | _ | _) | content <;> rfl

theorem run_mapNew {all : List Path} (ordered : InOrder all) (listed : found.Sublist all)
    (inOrder : InOrder mapped.paths) (within : mapped.paths ⊆ all) (world : World) :
    ∃ outcome after, (mapNew found mapped).run World.serve world = ((outcome, after), world) ∧
      MapsNew world.disk found mapped outcome after := by
  induction found generalizing mapped with
  | nil =>
    refine ⟨.ok (), mapped, rfl, fun _ => id, fun _ => .inl, inOrder, fun _ => ⟨rfl, nofun⟩, nofun⟩
  | cons path found ih =>
    have here : path ∈ all := listed.subset List.mem_cons_self
    have later : found.Sublist all := (List.sublist_cons_self path found).trans listed
    have apart : path ∉ found := (List.nodup_cons.1 (ordered.nodup.sublist listed)).1
    by_cases held : mapped.contains path = true
    · rw [mapNew, if_pos held]
      obtain ⟨outcome, after, ran, maps⟩ := ih later inOrder within
      refine ⟨outcome, after, ran, maps.pass ?_ (.inl held)⟩
      rw [refuses, held]
      rfl
    · have isNew : mapped.contains path = false := by simpa using held
      rw [run_mapNext held]
      split
      · next content maps =>
        have differ : ∀ other ∈ mapped.paths, path.components ≠ other.components := by
          intro other member
          refine components_ne ordered here (within member) fun same => ?_
          rw [same] at isNew
          rw [Mapped.contains_iff.2 member] at isNew
          cases isNew
        have inside : (mapped.insert path content).paths ⊆ all := by
          intro other member
          obtain ⟨entry, held, rfl⟩ := List.mem_map.1 member
          rcases Mapped.mem_insert.1 held with rfl | old
          · exact here
          · exact within (List.mem_map_of_mem old)
        obtain ⟨outcome, after, ran, others⟩ :=
          ih later (Mapped.inOrder_insert inOrder differ content) inside
        exact ⟨outcome, after, ran, others.map apart isNew maps⟩
      · next reason refused => exact ⟨_, mapped, rfl, .stop inOrder isNew refused found⟩
      · next error other failed =>
        obtain ⟨outcome, after, ran, maps⟩ := ih later inOrder within
        have sound : refuses world.disk mapped path = false := by
          refine refuses_eq_false (fun reason refused => ?_) mapped
          rw [failed] at refused
          exact other reason (Except.error.inj refused)
        refine ⟨outcome, after, ran, maps.pass sound (.inr fun content maps => ?_)⟩
        rw [failed] at maps
        cases maps

/-! ## Both -/

theorem contents_removeTree (disk : Disk) (path : Path) :
    (disk.removeTree path).2.contents = disk.contents := by
  rw [Disk.removeTree]
  split <;> rfl

theorem contents_run {α : Type} {program : Program interface α} (asks : program.Asks Surveys)
    (world : World) : (program.run World.serve world).2.disk.contents = world.disk.contents := by
  induction program generalizing world with
  | done a => rfl
  | ask request next ih =>
    have kept : (World.serve request world).2.disk.contents = world.disk.contents := by
      have surveys := asks.1
      cases request with
      | removeTree path => exact contents_removeTree world.disk path
      | cluster | pathExists | isDirectory | readDirectory | mapRegion => rfl
      | _ => cases surveys
    exact (ih _ (asks.2 _) _).trans kept

def stillThere (found : List Path) (mapped : Mapped) : Mapped :=
  mapped.filter fun entry => found.contains entry.1

/-- What an update does when nobody else steps in between. -/
structure Updates (lister : Lister) (mapped : Mapped) (world looked : World)
    (found : Except ListerError (List Path)) : Prop where
  contents : looked.disk.contents = world.disk.contents
  listing : lister.Listing found
  failed : ∀ cause, found = .error cause →
    (lister.update mapped).run World.serve world = ((.error cause, mapped), looked)
  mapped : ∀ paths, found = .ok paths → ∃ outcome after,
    (lister.update mapped).run World.serve world = ((outcome, after), looked) ∧
      MapsNew looked.disk paths (stillThere paths mapped) outcome after

theorem updates (lister : Lister) (inOrder : InOrder mapped.paths) {world looked : World}
    {found : Except ListerError (List Path)}
    (search : lister.search.run World.serve world = (found, looked)) :
    Updates lister mapped world looked found := by
  have listing : lister.Listing found := by
    have gives := Gives.run (search_gives lister) World.serve world
    rwa [search] at gives
  have run : (lister.update mapped).run World.serve world =
      (mapFound mapped found).run World.serve looked := by
    rw [update_eq]
    exact World.run_program_bind search (mapFound mapped)
  have contents := contents_run ((update_follows lister mapped).asks fun _ _ => And.left) world
  cases found with
  | error cause =>
    rw [run] at contents
    exact ⟨contents, listing, fun _ same => by cases same; exact run, nofun⟩
  | ok paths =>
    have order : InOrder (stillThere paths mapped).paths :=
      inOrder.sublist (List.filter_sublist.map _)
    have within : (stillThere paths mapped).paths ⊆ paths := by
      intro path member
      obtain ⟨entry, kept, rfl⟩ := List.mem_map.1 member
      simpa using (List.mem_filter.1 kept).2
    obtain ⟨outcome, after, ran, maps⟩ :=
      run_mapNew listing (List.Sublist.refl paths) order within looked
    have run := run.trans ran
    rw [run] at contents
    exact ⟨contents, listing, nofun, fun _ same => by cases same; exact ⟨outcome, after, run, maps⟩⟩

end Lister

end Agent

end GpuShare
