import GpuShare.Proofs.Agent.InOrder
import GpuShare.Proofs.Agent.MonitorRun
import GpuShare.Proofs.Agent.RegionSearch
import GpuShare.Proofs.Agent.StateFile

/-!
The file in which a container keeps its state is where a lister looks for it. As long as a region is there and
its pod is on the node, updates spare the directory and map the region, whatever else others do in between. What
ends an update before it comes to the file is the header of another file that does not fit the layout.
-/

set_option autoImplicit false

namespace GpuShare.Agent

open Cluster Wire Claiming Program GpuShare.Path Lister

variable {lister : Lister} {uid name file container : String} {content : Nat} {world after : World}
  {exchanges : List (Exchange interface)}

/-! ## The region while an update runs -/

namespace Lister

/-- The pod of a UID is on the lister's node, where the pods can be told. -/
def Lives (lister : Lister) (uid : String) (world : World) : Prop :=
  lister.asksCluster = true → uid ∈ lister.podUids world.connection.store.pods

def HoldsRegion (lister : Lister) (name file : String) (content : Nat) (world : World) : Prop :=
  ∃ root, world.disk.HoldsFile lister.directory name file content root ∧ IsSound world.disk content

structure IsWatchable (lister : Lister) (uid name file : String) (content : Nat) (world : World) : Prop where
  names : world.disk.HasNames
  lives : lister.Lives uid world
  region : lister.HoldsRegion name file content world

structure LeavesPod (lister : Lister) (uid : String) (before after : World) : Prop where
  names : before.disk.HasNames → after.disk.HasNames
  lives : lister.Lives uid before → lister.Lives uid after

structure LeavesRegion (lister : Lister) (uid name file : String) (content : Nat) (before after : World) : Prop
    extends LeavesPod lister uid before after where
  region : lister.HoldsRegion name file content before → lister.HoldsRegion name file content after

end Lister

/-- A world in which others step in after every answer, and do only what is allowed to them. -/
def amid (others : World → World → Prop) : Surroundings interface World :=
  fun world request answer after => ∃ answered, World.serve request world = (answer, answered) ∧ others answered after

-- What no answer and nobody else takes away holds wherever something is answered, and in the end.
theorem reaches_amid {others : World → World → Prop} (passes : Passes (amid others) world exchanges after)
    (invariant : World → Prop)
    (serves : ∀ exchange ∈ exchanges, ∀ world, invariant world →
      invariant (World.serve exchange.request world).2)
    (leaves : ∀ before after, others before after → invariant before → invariant after)
    (here : invariant world) : invariant after ∧ ∀ exchange ∈ exchanges, ∃ world,
      invariant world ∧ (World.serve exchange.request world).1 = exchange.answer := by
  have keeps : ∀ exchange ∈ exchanges, ∀ world next, invariant world →
      amid others world exchange.request exchange.answer next → invariant next := by
    rintro exchange member world next holds ⟨answered, served, left⟩
    have kept := serves exchange member world holds
    rw [served] at kept
    exact leaves answered next left kept
  obtain ⟨last, all⟩ := passes.reaches invariant keeps here
  refine ⟨last, fun exchange member => ?_⟩
  obtain ⟨world, next, holds, answered, served, -⟩ := all exchange member
  exact ⟨world, holds, congrArg Prod.fst served⟩

section Serving

variable {request : Request}

theorem pods_serve (surveys : Surveys request) (world : World) :
    (World.serve request world).2.connection.store.pods = world.connection.store.pods := by
  cases request with
  | cluster call =>
    cases call with
    | listPods =>
      simp only [World.serve, Connection.serve]
      split <;> rfl
    | _ => cases surveys
  | pathExists | isDirectory | readDirectory | removeTree | mapRegion => rfl
  | _ => cases surveys

theorem serve_mapRegion (path : Path) (world : World) :
    (World.serve (.mapRegion path) world).1 = World.mapRegion world.disk path := rfl

theorem disk_serve (surveys : Surveys request) (keeps : ∀ path, request ≠ .removeTree path) (world : World) :
    (World.serve request world).2.disk = world.disk := by
  cases request with
  | removeTree path => exact absurd rfl (keeps path)
  | cluster | pathExists | isDirectory | readDirectory | mapRegion => rfl
  | _ => cases surveys

theorem holdsRegion_serve (surveys : Surveys request)
    (spares : ∀ path, request = .removeTree path →
      ∃ other, IsEntryName other ∧ other ≠ name ∧ path = lister.directory.join other)
    (holds : lister.HoldsRegion name file content world) :
    lister.HoldsRegion name file content (World.serve request world).2 := by
  by_cases removes : ∃ path, request = .removeTree path
  · obtain ⟨path, rfl⟩ := removes
    obtain ⟨other, also, differs, rfl⟩ := spares path rfl
    obtain ⟨root, there, sound⟩ := holds
    rw [HoldsRegion, serve_removeTree]
    refine ⟨root, there.removeTree also differs, ?_⟩
    rwa [IsSound, Disk.bytes, contents_removeTree]
  · rwa [HoldsRegion, disk_serve surveys (not_exists.1 removes)]

end Serving

section Updates

variable {others : World → World → Prop} (passes : Passes (amid others) world exchanges after)
  (surveys : ∀ exchange ∈ exchanges, Surveys exchange.request)

include passes surveys

theorem tellsNames_of_passes
    (leaves : ∀ before after, others before after → before.disk.HasNames → after.disk.HasNames)
    (names : world.disk.HasNames) : after.disk.HasNames ∧ TellsNames exchanges := by
  obtain ⟨last, all⟩ := reaches_amid passes (·.disk.HasNames)
    (fun exchange member world names => hasNames_serve names (surveys exchange member)) leaves names
  refine ⟨last, fun path told member => ?_⟩
  obtain ⟨world, names, reads⟩ := all _ member
  exact names.readDirectory reads

theorem tellsPod_of_passes
    (leaves : ∀ before after, others before after → lister.Lives uid before → lister.Lives uid after)
    (lives : lister.Lives uid world) : lister.Lives uid after ∧ TellsPod lister uid exchanges := by
  have serves : ∀ exchange ∈ exchanges, ∀ world, lister.Lives uid world →
      lister.Lives uid (World.serve exchange.request world).2 := fun exchange member world lives may => by
    rw [pods_serve (surveys exchange member)]
    exact lives may
  obtain ⟨last, all⟩ := reaches_amid passes (lister.Lives uid) serves leaves lives
  refine ⟨last, fun may pods member => ?_⟩
  obtain ⟨world, lives, told⟩ := all _ member
  rw [serve_listPods told]
  exact lives may

theorem showsRegion_of_passes (leaves : ∀ before after, others before after →
      lister.HoldsRegion name file content before → lister.HoldsRegion name file content after)
    (is : IsEntryName name) (also : IsEntryName file) (spares : Spares lister name exchanges)
    (region : lister.HoldsRegion name file content world) :
    lister.HoldsRegion name file content after ∧ ShowsRegion lister name file content exchanges := by
  have serves : ∀ exchange ∈ exchanges, ∀ world, lister.HoldsRegion name file content world →
      lister.HoldsRegion name file content (World.serve exchange.request world).2 := by
    rintro ⟨request, answer⟩ member world region
    refine holdsRegion_serve (surveys _ member) ?_ region
    rintro path rfl
    exact spares path answer member
  obtain ⟨last, all⟩ := reaches_amid passes (lister.HoldsRegion name file content) serves leaves region
  refine ⟨last, ?_, ?_, ?_, ?_, ?_⟩
  · intro answer member
    obtain ⟨world, ⟨root, holds, -⟩, told⟩ := all _ member
    exact told.symm.trans holds.pathExists
  · intro answer member
    obtain ⟨world, ⟨root, holds, -⟩, told⟩ := all _ member
    obtain ⟨names, reads, among⟩ := holds.readDirectory
    exact ⟨names, told.symm.trans reads, among⟩
  · intro answer member
    obtain ⟨world, ⟨root, holds, -⟩, told⟩ := all _ member
    exact told.symm.trans ((serve_isDirectory _ world).trans (holds.isDirectory is))
  · intro answer member
    obtain ⟨world, ⟨root, holds, -⟩, told⟩ := all _ member
    obtain ⟨files, reads, among⟩ := holds.readFiles is
    exact ⟨files, told.symm.trans reads, among⟩
  · intro answer member
    obtain ⟨world, ⟨root, holds, sound⟩, told⟩ := all _ member
    have maps := mapRegion_of_isSound (holds.content_eq is also) sound
    exact told.symm.trans ((serve_mapRegion _ world).trans maps)

end Updates

/-- Whatever is mapped before it, an update spares the directory of a container whose pod others leave in place,
and watches the region in a file there that they leave in place. -/
structure Lister.KeepsWatch (lister : Lister) (uid container file : String) : Prop where
  spares : ∀ (mapped now : Mapped) (outcome : Except ListerError Unit) (world after : World)
    (exchanges : List (Exchange interface)), world.disk.HasNames → lister.Lives uid world →
    (lister.update mapped).Executes (amid (LeavesPod lister uid)) world exchanges (outcome, now) after →
    Spares lister (uid ++ "_" ++ container) exchanges
  watches : ∀ (content : Nat) (mapped now : Mapped) (outcome : Except ListerError Unit) (world after : World)
    (exchanges : List (Exchange interface)),
    IsWatchable lister uid (uid ++ "_" ++ container) file content world →
    (lister.update mapped).Executes (amid (LeavesRegion lister uid (uid ++ "_" ++ container) file content)) world
      exchanges (outcome, now) after →
    Watches lister (uid ++ "_" ++ container) file content mapped exchanges outcome now ∧
      IsWatchable lister uid (uid ++ "_" ++ container) file content after

theorem surveys_of_update {mapped now : Mapped} {outcome : Except ListerError Unit}
    (ends : (lister.update mapped).Ends exchanges (outcome, now)) :
    ∀ exchange ∈ exchanges, Surveys exchange.request :=
  ((update_follows lister mapped).asks fun _ _ => And.left).of_ends ends

theorem keepsWatch (of : IsRegionOf uid container (uid ++ "_" ++ container) file) :
    lister.KeepsWatch uid container file := by
  constructor
  · rintro mapped now outcome world after exchanges names lives ⟨ends, passes⟩
    have surveys := surveys_of_update ends
    obtain ⟨-, entries⟩ := tellsNames_of_passes passes surveys (fun _ _ left => left.names) names
    obtain ⟨-, tells⟩ := tellsPod_of_passes passes surveys (fun _ _ left => left.lives) lives
    exact update_spares entries of.owner tells ends
  · rintro content mapped now outcome world after exchanges watchable ⟨ends, passes⟩
    have surveys := surveys_of_update ends
    obtain ⟨names, entries⟩ := tellsNames_of_passes passes surveys (fun _ _ left => left.names) watchable.names
    obtain ⟨lives, tells⟩ := tellsPod_of_passes passes surveys (fun _ _ left => left.lives) watchable.lives
    have spares := update_spares entries of.owner tells ends
    obtain ⟨region, shows⟩ := showsRegion_of_passes passes surveys (fun _ _ left => left.region) of.isName
      of.isFile spares watchable.region
    exact ⟨update_watches entries shows of tells ends, names, lives, region⟩

theorem KeepsStateIn.isRegionOf {config : AgentConfig} {response : ContainerResponse}
    (keeps : KeepsStateIn config response uid container file) (named : NamesContainer uid container) :
    IsRegionOf uid container (uid ++ "_" ++ container) file :=
  ⟨keeps.owner, isEntryName_of_owner keeps.owner named.isName, keeps.isEntry, keeps.isRegion⟩

section Calls

variable {config : AgentConfig} {remembered now : Option Mig.Partition} {resource : Resource}
  {request : AllocateRequest} {answer : AllocateResponse} {ids : List String}

/-- A call for shares that succeeds answers for one container of a pod, and the mounts lead what the environment
says of the shared file to a file in the directory named for both. Every lister that looks there watches a region
in this file. -/
theorem state_file_is_watched (mode : config.mode = .hamiCore)
    (fresh : ∀ id, ⟨.freshId, id⟩ ∈ exchanges → IsIdentifier id) (uses : UsesQueue resource request ids)
    (ends : (allocate config remembered resource request).Ends exchanges (.ok answer, now)) :
    ∃ pod container response, answer = ⟨[response]⟩ ∧ HandsOut config ids exchanges pod container response ∧
      ∀ uid, pod.metadata.uid = some uid → NamesContainer uid container.name → ∃ id,
        ⟨.freshId, id⟩ ∈ exchanges ∧ KeepsStateIn config response uid container.name (stateFile id) ∧
        ∀ node asksCluster,
          (Lister.mk config.paths.containers node asksCluster).KeepsWatch uid container.name (stateFile id) := by
  obtain ⟨pod, container, response, rfl, hands⟩ := handsOut_of_allocate uses ends
  refine ⟨pod, container, response, rfl, hands, fun uid uidIs named => ?_⟩
  obtain ⟨id, given, keeps⟩ := hands.keepsState mode fresh uidIs named
  exact ⟨id, given, keeps, fun _ _ => keepsWatch (keeps.isRegionOf named)⟩

end Calls

/-! ## A container and its region -/

def hosting : AgentConfig := { Serving.sharingAgent with paths := { containers := onNode.directory } }

def hosted : Program interface (Except AllocationError AllocateResponse × Option Mig.Partition) :=
  allocate hosting none Serving.shares ⟨[["GPU-0-0"]]⟩

def earlyFile : String := stateFile (World.identifier 0)

def worldWith (entries : List (Location × Entry)) (contents : Array ByteArray) : World where
  connection := { store := { pods := [podOf "early", podOf "dark"] } }
  disk := ⟨(["containers"], .directory Disk.defaultMode) ::
    (["containers", "early_main"], .directory Disk.defaultMode) ::
    (["containers", "early_main", earlyFile], .file 0) :: entries, contents⟩

def hostedTrace : List (Exchange interface) := hosted.trace World.serve Serving.twoPods.world

def given? : Exchange interface → Option String
  | ⟨.freshId, id⟩ => some id
  | _ => none

theorem told_hosted :
    (∀ exchange ∈ hostedTrace, ∀ pod ∈ written? exchange,
      pod.metadata.uid = some "early" ∧ ∀ container ∈ pod.containers, container.name = "main") ∧
    ∀ exchange ∈ hostedTrace, ∀ id ∈ given? exchange, id = World.identifier 0 := by decide +kernel

theorem HandsOut.hosted {pod : Pod} {container : Container} {response : ContainerResponse} {ids : List String}
    (hands : HandsOut hosting ids hostedTrace pod container response) :
    pod.metadata.uid = some "early" ∧ container.name = "main" := by
  obtain ⟨⟨exchange, member, wrote⟩, own⟩ := hands.told
  obtain ⟨uidIs, named⟩ := told_hosted.1 exchange member pod wrote
  exact ⟨uidIs, named container own⟩

theorem given_hosted {id : String} (given : ⟨.freshId, id⟩ ∈ hostedTrace) : id = World.identifier 0 :=
  told_hosted.2 _ given id rfl

theorem isIdentifier_hosted (id : String) (given : ⟨.freshId, id⟩ ∈ hostedTrace) : IsIdentifier id :=
  given_hosted given ▸ isIdentifier_identifier 0

theorem namesContainer_hosted : NamesContainer "early" "main" := ⟨by decide, by decide, by decide, by decide⟩

theorem ends_hosted : ∃ answer now, hosted.Ends hostedTrace (.ok answer, now) := by
  have succeeds : (hosted.run World.serve Serving.twoPods.world).1.1.toOption.isSome := by decide +kernel
  have ends := ends_run World.serve hosted Serving.twoPods.world
  generalize (hosted.run World.serve Serving.twoPods.world).1 = result at succeeds ends
  obtain ⟨_ | answer, now⟩ := result
  · cases succeeds
  · exact ⟨answer, now, ends⟩

theorem isWatchable_worldWith {entries : List (Location × Entry)} {contents : Array ByteArray}
    (names : (worldWith entries contents).disk.HasNames) (sound : IsSound (worldWith entries contents).disk 0) :
    IsWatchable onNode "early" "early_main" earlyFile 0 (worldWith entries contents) := by
  have directory : Disk.entry? (worldWith entries contents).disk ["containers"] =
      some (.directory Disk.defaultMode) := rfl
  have place : onNode.directory.components = ["containers"] := by decide +kernel
  have leads : (worldWith entries contents).disk.LeadsTo onNode.directory onNode.directory.components := by
    refine Disk.leadsTo_of_directories (by decide +kernel) ?_
    rw [place]
    intro front some_name along
    obtain ⟨name, rest, rfl⟩ := List.exists_cons_of_ne_nil some_name
    obtain ⟨rfl, nothing⟩ := List.cons_prefix_cons.1 along
    rw [List.prefix_nil.1 nothing]
    exact ⟨_, directory⟩
  rw [place] at leads
  have lives : "early" ∈ onNode.podUids [podOf "early", podOf "dark"] := by decide
  refine ⟨names, fun _ => lives, ["containers"], ⟨leads, ⟨Disk.defaultMode, ?_⟩, ?_, by decide, by decide +kernel⟩,
    sound⟩
  · rfl
  · simp [worldWith, Disk.entry?]

def lit : World := worldWith [] #[Region.zeros Region.Layout.size]

/-- The region of another container comes before, and its header was overwritten. -/
def dimmed : World :=
  worldWith [(["containers", "dark_main"], .directory Disk.defaultMode),
    (["containers", "dark_main", "region.cache"], .file 1)]
    #[Region.zeros Region.Layout.size, Monitor.overwritten]

def earlyPath : Path := (onNode.directory.join "early_main").join earlyFile

def darkPath : Path := (onNode.directory.join "dark_main").join "region.cache"

theorem isWatchable_lit : IsWatchable onNode "early" "early_main" earlyFile 0 lit :=
  isWatchable_worldWith (by unfold Disk.HasNames; decide +kernel) Monitor.isSound_opened

theorem isWatchable_dimmed : IsWatchable onNode "early" "early_main" earlyFile 0 dimmed :=
  isWatchable_worldWith (by unfold Disk.HasNames; decide +kernel) Monitor.isSound_opened

theorem run_update {found : List Path} {looked : World}
    (searched : lister.search.run World.serve world = (.ok found, looked)) (mapped : Mapped) :
    (lister.update mapped).run World.serve world =
      (mapNew found (stillThere found mapped)).run World.serve looked := by
  rw [update_eq]
  exact World.run_program_bind searched (mapFound mapped)

theorem run_first_update {found : List Path} {looked : World}
    (searched : lister.search.run World.serve world = (.ok found, looked)) :
    (lister.update []).run World.serve world = (mapNew found []).run World.serve looked := run_update searched []

theorem contents_of_search {found : Except ListerError (List Path)} {looked : World}
    (searched : lister.search.run World.serve world = (found, looked)) :
    looked.disk.contents = world.disk.contents := by
  have nothing : InOrder (Mapped.paths []) := List.Pairwise.nil
  exact (updates lister nothing searched).contents

-- The only region file that is found is mapped.
theorem update_of_search {path : Path}
    (found : (lister.search.run World.serve world).1 = .ok [path])
    (leads : (lister.search.run World.serve world).2.disk.content? path = .ok content)
    (sound : IsSound world.disk content) :
    (lister.update []).run World.serve world =
      ((.ok (), [(path, content)]), (lister.search.run World.serve world).2) := by
  generalize searched : lister.search.run World.serve world = result at found leads
  obtain ⟨_, looked⟩ := result
  obtain rfl := found
  rw [IsSound, Disk.bytes, ← contents_of_search searched] at sound
  have isNew : Mapped.contains [] path ≠ true := Bool.false_ne_true
  rw [run_first_update searched, run_mapNext isNew, mapRegion_of_isSound leads sound]
  rfl

theorem update_lit : ((onNode.update []).run World.serve lit).1.1 = .ok () := by
  have found : (onNode.search.run World.serve lit).1 = .ok [earlyPath] := ok_of_toOption (by decide +kernel)
  have leads : (onNode.search.run World.serve lit).2.disk.content? earlyPath = .ok 0 :=
    ok_of_toOption (by decide +kernel)
  rw [update_of_search found leads Monitor.isSound_opened]

theorem update_dimmed : ∃ reason, ((onNode.update []).run World.serve dimmed).1 =
    (.error (.layout darkPath.text reason), []) := by
  have found : (onNode.search.run World.serve dimmed).1 = .ok [darkPath, earlyPath] :=
    ok_of_toOption (by decide +kernel)
  have leads : (onNode.search.run World.serve dimmed).2.disk.content? darkPath = .ok 1 :=
    ok_of_toOption (by decide +kernel)
  generalize searched : onNode.search.run World.serve dimmed = result at found leads
  obtain ⟨_, looked⟩ := result
  obtain rfl := found
  have contents := contents_of_search searched
  have bytes : looked.disk.bytes 1 = Monitor.overwritten := by
    rw [Disk.bytes, contents]
    rfl
  have broken : hasBrokenHeader looked.disk darkPath = true := by
    simp only [hasBrokenHeader, leads, bytes, decide_eq_true_eq]
    exact ⟨Nat.le_of_eq Monitor.size_overwritten.symm, Monitor.not_hasValidHeader_overwritten⟩
  obtain ⟨reason, refused⟩ := mapRegion_of_broken broken
  refine ⟨reason, ?_⟩
  have isNew : Mapped.contains [] darkPath ≠ true := Bool.false_ne_true
  rw [run_first_update searched, run_mapNext isNew, refused]

theorem executes_serve {α : Type} (program : Program interface α) (world : World) :
    program.Executes (amid (LeavesRegion lister uid name file content)) world (program.trace World.serve world)
      (program.run World.serve world).1 (program.run World.serve world).2 :=
  executes_run id (fun _ _ => ⟨_, rfl, ⟨id, id⟩, id⟩) program world

-- The pod is served, its container's region appears, and an update maps it.
theorem state_file_is_watched_lit : ∃ response outcome now after,
    (∃ remembered, hosted.Ends hostedTrace (.ok ⟨[response]⟩, remembered)) ∧
    KeepsStateIn hosting response "early" "main" earlyFile ∧
    IsWatchable onNode "early" "early_main" earlyFile 0 lit ∧
    (onNode.update []).run World.serve lit = ((outcome, now), after) ∧ (earlyPath, 0) ∈ now ∧
    IsWatchable onNode "early" "early_main" earlyFile 0 after := by
  obtain ⟨answer, remembered, ends⟩ := ends_hosted
  have uses : UsesQueue Serving.shares ⟨[["GPU-0-0"]]⟩ ["GPU-0-0"] := ⟨rfl, nofun, rfl⟩
  obtain ⟨pod, container, response, rfl, hands, watched⟩ :=
    state_file_is_watched rfl isIdentifier_hosted uses ends
  obtain ⟨uidIs, named⟩ := hands.hosted
  rw [named] at watched
  obtain ⟨id, given, keeps, watch⟩ := watched "early" uidIs namesContainer_hosted
  obtain rfl := given_hosted given
  have directory : "early" ++ "_" ++ "main" = "early_main" := by decide
  have watch : onNode.KeepsWatch "early" "main" earlyFile := watch "node-a" true
  have watches := watch.watches 0 []
  rw [directory] at watches
  have executes : (onNode.update []).Executes (amid (LeavesRegion onNode "early" "early_main" earlyFile 0)) lit
      _ _ _ := executes_serve (onNode.update []) lit
  have updated := update_lit
  generalize (onNode.update []).run World.serve lit = result at executes updated
  obtain ⟨⟨outcome, now⟩, after⟩ := result
  obtain ⟨watches, still⟩ := watches now outcome lit after _ isWatchable_lit executes
  refine ⟨response, outcome, now, after, ⟨remembered, ends⟩, keeps, isWatchable_lit, rfl, ?_, still⟩
  obtain mapped | ⟨other, reason, stops⟩ := watches.maps rfl
  · exact mapped
  · cases updated.symm.trans stops.ended

-- Another region ends the update before it comes to the region of the container.
theorem broken_region_keeps_others_unwatched : ∃ pod container response,
    (∃ remembered, hosted.Ends hostedTrace (.ok ⟨[response]⟩, remembered)) ∧
    HandsOut hosting ["GPU-0-0"] hostedTrace pod container response ∧ pod.metadata.uid = some "early" ∧
    NamesContainer "early" container.name ∧ KeepsStateIn hosting response "early" container.name earlyFile ∧
    onNode.directory = hosting.paths.containers ∧
    IsWatchable onNode "early" ("early" ++ "_" ++ container.name) earlyFile 0 dimmed ∧
    ((onNode.update []).run World.serve dimmed).1.2.contains
      ((onNode.directoryOf "early" container.name).join earlyFile) = false := by
  obtain ⟨answer, remembered, ends⟩ := ends_hosted
  have uses : UsesQueue Serving.shares ⟨[["GPU-0-0"]]⟩ ["GPU-0-0"] := ⟨rfl, nofun, rfl⟩
  obtain ⟨pod, container, response, rfl, hands⟩ := handsOut_of_allocate uses ends
  obtain ⟨uidIs, name⟩ := hands.hosted
  have named : NamesContainer "early" container.name := name ▸ namesContainer_hosted
  obtain ⟨id, given, keeps⟩ := hands.keepsState rfl isIdentifier_hosted uidIs named
  obtain rfl := given_hosted given
  obtain ⟨reason, updated⟩ := update_dimmed
  refine ⟨pod, container, response, ⟨remembered, ends⟩, hands, uidIs, named, keeps, rfl, ?_, ?_⟩
  · rw [name]
    exact isWatchable_dimmed
  · rw [updated]
    rfl

end GpuShare.Agent
