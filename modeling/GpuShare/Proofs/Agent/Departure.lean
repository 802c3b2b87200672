import GpuShare.Proofs.Text.Split
import GpuShare.Proofs.Agent.ListerProtocol
import GpuShare.Proofs.Agent.ListerSharing

/-!
What an update clears away is decided by the pods that were on the node when it was told the pods, also
when it removes later. A pod that came in between is taken for one that is gone.
-/

set_option autoImplicit false

namespace GpuShare.Agent

open Cluster Program Text

theorem NamesContainer.owner {uid container : String} (named : NamesContainer uid container) :
    ownerOf? (uid ++ "_" ++ container) = some (uid, container) := by
  have cut : splitFirst? '_' (uid ++ "_" ++ container).toList = some (uid.toList, container.toList) := by
    simpa using splitFirst?_append named.plain container.toList
  have front : uid.toList ≠ [] := by simpa using named.some_uid
  have back : container.toList ≠ [] := by simpa using named.some_container
  obtain ⟨c, cs, first⟩ := List.exists_cons_of_ne_nil front
  obtain ⟨d, ds, second⟩ := List.exists_cons_of_ne_nil back
  rw [ownerOf?, cut, first, second, ← String.ofList_toList (s := uid),
    ← String.ofList_toList (s := container), first, second]

namespace Lister

variable {lister : Lister} {trace earlier later : List (Transition Scene Unit)}
  {scene start after : Scene} {transition : Transition Scene Unit} {knowledge : Knowledge}
  {mapped : Mapped} {uid container : String}

structure Informed (lister : Lister) (trace : List (Transition Scene Unit)) (scene : Scene)
    (knowledge : Knowledge) : Prop where
  follows : scene.rest.Follows lister.protocol (fun knowledge _ => knowledge.IsSettled lister)
    knowledge
  live : ∀ uids, knowledge.live = some uids ↔
    ∃ listing ∈ trace, Lists listing ∧ listing.before.live lister = uids
  names : ∀ name ∈ knowledge.names, IsName name
  disk : scene.world.disk.HasNames

theorem serve_listPods {world : World} {pods : List Pod}
    (told : (World.serve (.cluster .listPods) world).1 = .ok pods) :
    pods = world.connection.store.pods := by
  simp only [World.serve, Connection.serve] at told
  split at told
  · cases told
  · exact (Except.ok.inj told).symm

theorem serve_isDirectory (path : Path) (world : World) :
    (World.serve (.isDirectory path) world).1 = world.disk.isDirectory path := rfl

theorem serve_removeTree (path : Path) (world : World) :
    (World.serve (.removeTree path) world).2.disk = (world.disk.removeTree path).2 := rfl

theorem hasNames_serve {world : World} {request : Request} (names : world.disk.HasNames)
    (surveys : Surveys request) : (World.serve request world).2.disk.HasNames := by
  cases request with
  | removeTree path => exact names.removeTree path
  | cluster call => exact names
  | pathExists | isDirectory | readDirectory | mapRegion => exact names
  | _ => cases surveys

theorem hasNames_makeSharedDirectory {world : World} (names : world.disk.HasNames) (path : Path) :
    (World.serve (.makeSharedDirectory path) world).2.disk.HasNames := by
  have made := names.makeDirectories path
  simp only [World.serve]
  generalize world.disk.makeDirectories path = state at made ⊢
  obtain ⟨_ | _, disk⟩ := state
  · exact made
  · exact made.setMode path _

-- Nobody else makes an update listen.
theorem Informed.others (informed : Informed lister trace scene knowledge)
    {world : World} (names : world.disk.HasNames) :
    Informed lister (⟨scene, none, world, scene.rest⟩ :: trace) ⟨world, scene.rest⟩ knowledge := by
  refine ⟨informed.follows, fun uids => ?_, informed.names, names⟩
  rw [informed.live]
  simp [Lists, Asks]

theorem Asks.same {request other : Request} {actor : Option Unit}
    {next : Answer request → Program interface (Except ListerError Unit × Mapped)}
    (does : Asks ⟨scene, actor, after⟩ other) (asks : scene.rest = .ask request next) :
    other = request := by
  obtain ⟨-, others, asked⟩ := does
  cases asks.symm.trans asked
  rfl

-- Of all requests only the one for the pods changes which pods are known.
theorem live_learn (lister : Lister) (knowledge : Knowledge) (scene : Scene) (request : Request) :
    (request = .cluster .listPods ∧ (∃ pods, (World.serve (.cluster .listPods) scene.world).1 = .ok pods) ∧
      (knowledge.learn lister request (World.serve request scene.world).1).live =
        some (scene.live lister)) ∨
    (¬ (request = .cluster .listPods ∧
        ∃ pods, (World.serve (.cluster .listPods) scene.world).1 = .ok pods) ∧
      (knowledge.learn lister request (World.serve request scene.world).1).live = knowledge.live) := by
  by_cases lists : request = .cluster .listPods
  · subst lists
    cases told : (World.serve (.cluster .listPods) scene.world).1 with
    | ok pods => exact .inl ⟨rfl, ⟨pods, rfl⟩, by rw [serve_listPods told]; rfl⟩
    | error error => exact .inr ⟨by simp, rfl⟩
  · refine .inr ⟨fun both => lists both.1, ?_⟩
    generalize (World.serve request scene.world).1 = answer
    unfold Knowledge.learn
    split
    · exact absurd rfl lists
    all_goals rfl

theorem names_learn (informed : Informed lister trace scene knowledge) (request : Request) :
    ∀ name ∈ (knowledge.learn lister request (World.serve request scene.world).1).names,
      IsName name := by
  generalize told : (World.serve request scene.world).1 = answer
  unfold Knowledge.learn
  split
  · exact informed.names
  · intro name member
    rcases List.mem_append.1 member with old | new
    · exact informed.names name old
    · exact informed.disk.readDirectory told name new
  all_goals exact informed.names

theorem Informed.update (informed : Informed lister trace scene knowledge) {request : Request}
    {next : Answer request → Program interface (Except ListerError Unit × Mapped)}
    (asks : scene.rest = .ask request next) :
    Informed lister
      (⟨scene, some (), (World.serve request scene.world).2, next (World.serve request scene.world).1⟩
        :: trace)
      ⟨(World.serve request scene.world).2, next (World.serve request scene.world).1⟩
      (knowledge.learn lister request (World.serve request scene.world).1) := by
  have follows := informed.follows
  rw [asks] at follows
  obtain ⟨⟨surveys, -, first⟩, follows⟩ := follows
  refine ⟨follows _, fun uids => ?_, names_learn informed request,
    hasNames_serve informed.disk surveys⟩
  rcases live_learn lister knowledge scene request with ⟨rfl, told, live⟩ | ⟨unlisted, live⟩
  · rw [live, Option.some_inj]
    refine ⟨fun same => ⟨_, List.mem_cons_self, ⟨⟨rfl, next, asks⟩, told⟩, same⟩, ?_⟩
    rintro ⟨listing, member, lists, same⟩
    rcases List.mem_cons.1 member with rfl | past
    · exact same
    · -- Nobody was told before.
      have known := (informed.live uids).2 ⟨listing, past, lists, same⟩
      rw [first rfl] at known
      cases known
  · rw [live, informed.live]
    refine ⟨fun ⟨listing, past, lists⟩ => ⟨listing, List.mem_cons_of_mem _ past, lists⟩, ?_⟩
    rintro ⟨listing, member, lists, same⟩
    rcases List.mem_cons.1 member with rfl | past
    · exact absurd ⟨(lists.1.same asks).symm, lists.2⟩ unlisted
    · exact ⟨listing, past, lists, same⟩

theorem Informed.step {actor : Option Unit} (informed : Informed lister trace scene knowledge)
    (step : Step lister scene actor after) :
    ∃ knowledge, Informed lister (⟨scene, actor, after⟩ :: trace) after knowledge := by
  cases step with
  | schedule connection _ => exact ⟨knowledge, informed.others informed.disk⟩
  | allocate config pod container _ _ _ =>
    exact ⟨knowledge, informed.others (hasNames_makeSharedDirectory informed.disk _)⟩
  | update request next asks => exact ⟨_, informed.update asks⟩

theorem informed_of_run (run : Run (Step lister) start trace scene)
    (begins : start.rest = lister.update mapped) (names : start.world.disk.HasNames) :
    ∃ knowledge, Informed lister trace scene knowledge := by
  induction run with
  | start =>
    exact ⟨{}, begins ▸ update_follows lister mapped, fun uids => by simp, nofun, names⟩
  | step run made ih =>
    obtain ⟨knowledge, informed⟩ := ih
    exact informed.step made

theorem Informed.wasGone_iff (informed : Informed lister trace scene knowledge)
    (named : NamesContainer uid container) :
    WasGone lister trace uid ↔ knowledge.Departed (uid ++ "_" ++ container) := by
  constructor
  · rintro ⟨listing, past, lists, absent⟩
    have live := (informed.live _).2 ⟨listing, past, lists, rfl⟩
    refine ⟨uid, container, named.owner, ?_⟩
    simpa [isDeparted, live] using absent
  · rintro ⟨other, others, owned, departed⟩
    obtain ⟨rfl, rfl⟩ := Prod.mk.inj (Option.some.inj (named.owner.symm.trans owned))
    obtain ⟨uids, live, absent⟩ := (Option.any_eq_true _ _).1 departed
    obtain ⟨listing, past, lists, rfl⟩ := (informed.live uids).1 live
    exact ⟨listing, past, lists, by simpa using absent⟩

-- The path of a container's directory tells which container it is.
theorem Informed.eq_of_join (informed : Informed lister trace scene knowledge)
    (named : NamesContainer uid container) {name : String} (told : name ∈ knowledge.names)
    (same : lister.directoryOf uid container = lister.directory.join name) :
    uid ++ "_" ++ container = name :=
  (Path.join_inj named.isName (informed.names name told)).1 same

theorem Step.answered {request : Request}
    {next : Answer request → Program interface (Except ListerError Unit × Mapped)}
    (step : Step lister scene (some ()) after) (asks : scene.rest = .ask request next) :
    after.rest = next (World.serve request scene.world).1 := by
  cases step with
  | update other others asked =>
    cases asks.symm.trans asked
    rfl

theorem Informed.removed (informed : Informed lister trace scene knowledge)
    (named : NamesContainer uid container)
    (asks : ∃ next, scene.rest = .ask (.removeTree (lister.directoryOf uid container)) next) :
    WasGone lister trace uid := by
  obtain ⟨next, asks⟩ := asks
  have follows := informed.follows
  rw [asks] at follows
  have handles := follows.1.2.1
  unfold Knowledge.Handles at handles
  split at handles
  · exact absurd rfl (handles _)
  · obtain ⟨name, told, here, removed⟩ := handles
    obtain ⟨same, departed⟩ := (removed _).1 rfl
    rw [informed.wasGone_iff named, informed.eq_of_join named told (same.trans here)]
    exact departed

theorem Informed.found (informed : Informed lister trace scene knowledge)
    (named : NamesContainer uid container) (step : Step lister scene (some ()) after)
    (finds : Finds ⟨scene, some (), after⟩ (lister.directoryOf uid container)) :
    (∃ next, after.rest = .ask (.removeTree (lister.directoryOf uid container)) next) ↔
      WasGone lister trace uid := by
  obtain ⟨⟨-, next, asks⟩, is⟩ := finds
  have follows := informed.follows
  rw [asks] at follows
  have follows := follows.2 true
  have rest := step.answered asks
  rw [serve_isDirectory, show scene.world.disk.isDirectory _ = true from is] at rest
  rw [rest, informed.wasGone_iff named]
  -- The entry that was seen is this one, so the next request is told by its name.
  cases goes : next true with
  | done value =>
    rw [goes] at follows
    obtain ⟨name, told, here, lives⟩ := follows _ rfl
    rw [informed.eq_of_join named told here]
    exact ⟨fun ⟨_, removing⟩ => (nomatch removing), fun departed => absurd departed lives⟩
  | ask request later =>
    rw [goes] at follows
    obtain ⟨name, told, here, removed⟩ := follows.1.2.1
    rw [informed.eq_of_join named told here]
    constructor
    · rintro ⟨_, ⟨⟩⟩
      exact ((removed _).1 rfl).2
    · intro departed
      obtain rfl := (removed _).2 ⟨rfl, departed⟩
      exact ⟨later, rfl⟩

/-- In whatever order the others step in between, an update clears away the directories of the pods that
were not on the node when it was told the pods, and of no others. -/
theorem clears_departed (run : Run (Step lister) start trace scene)
    (begins : start.rest = lister.update mapped) (names : start.world.disk.HasNames)
    (named : NamesContainer uid container) (split : trace = later ++ transition :: earlier) :
    Clears lister uid container earlier transition := by
  obtain ⟨before, step⟩ := run.upTo split
  obtain ⟨knowledge, informed⟩ := informed_of_run before begins names
  obtain ⟨scene, actor, after⟩ := transition
  constructor
  · rintro ⟨⟨⟩, asks⟩
    exact informed.removed named asks
  · rintro ⟨⟨⟨⟩, asks⟩, is⟩
    exact informed.found named step ⟨⟨rfl, asks⟩, is⟩

section Schedules

variable {world : World} {live : Option (List String)}
  {rest : Program interface (Except ListerError Unit × Mapped)}
  {name : String}

theorem takesStep (request : Request) {answer : Answer request}
    {next : Answer request → Program interface (Except ListerError Unit × Mapped)}
    (run : Run (Step lister) start trace ⟨world, rest⟩)
    (asks : rest = .ask request next) (told : (World.serve request world).1 = answer) :
    Run (Step lister) start
      (⟨⟨world, rest⟩, some (), ⟨(World.serve request world).2, next answer⟩⟩ :: trace)
      ⟨(World.serve request world).2, next answer⟩ := by
  subst told
  exact run.step (.update request next asks)

def survey (lister : Lister) (live : Option (List String)) (mapped : Mapped) :
    Program interface (Except ListerError Unit × Mapped) :=
  .ask (.readDirectory lister.directory) fun
    | .error _ => .done (.error (.readDirectory lister.directory.text), mapped)
    | .ok names => (lister.scan live names).bind fun found =>
      mapNew found (mapped.filter fun entry => found.contains entry.1)

theorem livePods?_bind {α : Type} (may : lister.asksCluster = true)
    (f : Option (List String) → Program interface α) :
    (lister.livePods? >>= f) =
      .ask (.cluster .listPods) fun answer => f (answer.toOption.map lister.podUids) := by
  rw [livePods?, if_pos may]
  refine congrArg (Program.ask (I := interface) (.cluster .listPods)) (funext fun answer => ?_)
  cases answer <;> rfl

-- The first two requests of an update.
theorem toldPods (lister : Lister) (may : lister.asksCluster = true)
    (there : world.disk.pathExists lister.directory = true) {pods : List Pod}
    (told : (World.serve (.cluster .listPods) world).1 = .ok pods) (mapped : Mapped) :
    ∃ trace, Run (Step lister) ⟨world, lister.update mapped⟩ trace
      ⟨(World.serve (.cluster .listPods) world).2,
        lister.survey (some (lister.podUids pods)) mapped⟩ := by
  have begins : Run (Step lister) ⟨world, lister.update mapped⟩ [] ⟨world, lister.update mapped⟩ := .start
  have run := takesStep (.pathExists lister.directory) begins rfl there
  have asks := livePods?_bind may fun live => lister.survey live mapped
  exact ⟨_, takesStep _ run asks told⟩

theorem visit_departed {gone : String × String} (owner : ownerOf? name = some gone)
    (departed : isDeparted live gone.1 = true) :
    lister.visit live name = .ask (.isDirectory (lister.directory.join name)) fun
      | true => .ask (.removeTree (lister.directory.join name)) fun _ => .done []
      | false => .done [] := by
  refine congrArg (Program.ask (I := interface) (.isDirectory _)) (funext fun is => ?_)
  cases is with
  | false => rfl
  | true =>
    dsimp only
    rw [owner]
    exact if_pos departed

theorem scan_bind {α : Type} (lister : Lister) (live : Option (List String)) (name : String)
    (names : List String) (f : List Path → Program interface α) :
    (lister.scan live (name :: names)).bind f =
      (lister.visit live name).bind fun files =>
        (lister.scan live names).bind fun found => f (files.foldr insertPath found) := by
  show ((lister.visit live name).bind fun files =>
    (lister.scan live names).bind fun found => .done (files.foldr insertPath found)).bind f = _
  simp only [Program.bind_assoc]
  rfl

-- The last steps of an update that removes the directory of a pod on the node.
theorem removesLive (uid container : String) (names : List String) (gone : String × String)
    (run : Run (Step lister) start trace ⟨world, lister.survey live mapped⟩)
    (reads : (world.disk.readDirectory lister.directory).toOption =
      some ((uid ++ "_" ++ container) :: names))
    (there : world.disk.isDirectory (lister.directoryOf uid container) = true)
    (vanishes : (world.disk.removeTree (lister.directoryOf uid container)).2.isDirectory
      (lister.directoryOf uid container) = false)
    (owner : ownerOf? (uid ++ "_" ++ container) = some gone) (departed : isDeparted live gone.1 = true)
    (lives : uid ∈ lister.podUids world.connection.store.pods) :
    ∃ earlier rest after,
      Run (Step lister) start (⟨⟨world, rest⟩, some (), after⟩ :: earlier) after ∧
        RemovesLive lister uid container ⟨⟨world, rest⟩, some (), after⟩ := by
  have told : world.disk.readDirectory lister.directory =
      .ok ((uid ++ "_" ++ container) :: names) := by
    cases answer : world.disk.readDirectory lister.directory with
    | ok told =>
      rw [answer] at reads
      exact congrArg Except.ok (Option.some.inj reads)
    | error error =>
      rw [answer] at reads
      cases reads
  have run := takesStep (.readDirectory lister.directory) run rfl told
  have asks := scan_bind lister live (uid ++ "_" ++ container) names fun found =>
    mapNew found (mapped.filter fun entry => found.contains entry.1)
  rw [visit_departed owner departed] at asks
  have run := takesStep _ run asks ((serve_isDirectory _ world).trans there)
  refine ⟨_, _, _, takesStep _ run rfl rfl, ⟨rfl, _, rfl⟩, lives, there, ?_⟩
  dsimp only
  rw [serve_removeTree]
  exact vanishes

end Schedules

def onNode : Lister := ⟨⟨"/containers"⟩, "node-a", true⟩

def podOf (uid : String) : Pod :=
  ⟨⟨some "default", some "job", some uid, none, none⟩, some ⟨some "node-a", [⟨"main", [], .empty⟩]⟩⟩

def worldOf (uids names : List String) : World :=
  { connection := { store := { pods := uids.map podOf } }
    disk := ⟨(["containers"], .directory Disk.defaultMode) ::
      names.map fun name => (["containers", name], .directory Disk.defaultMode), #[]⟩ }

def agent : AgentConfig where
  node := "node-a"
  countName := AgentConfig.defaultCountName
  memoryName := AgentConfig.defaultMemoryName
  coreName := AgentConfig.defaultCoreName
  priorityName := AgentConfig.defaultPriorityName
  splitCount := AgentConfig.defaultSplitCount
  memoryScaling := 1
  memoryFactor := 1
  mode := .hamiCore
  strategy := .none
  geometries := []
  filter := {}
  paths := { containers := ⟨"/containers"⟩ }

/-- An update was told that no pods are there; then a pod came, and the directory of its container. -/
def arrived : World :=
  (World.serve (.makeSharedDirectory (stateDirectory agent (podOf "uid-b") ⟨"main", [], .empty⟩))
    { (World.serve (.cluster .listPods) (worldOf [] [])).2 with
      connection := { store := { pods := [podOf "uid-b"] } } }).2

theorem told_podOf (uids names : List String) :
    (World.serve (.cluster .listPods) (worldOf uids names)).1 = .ok (uids.map podOf) := rfl

theorem race : ∃ earlier rest after,
    Run (Step onNode) ⟨worldOf [] [], onNode.update []⟩
        (⟨⟨arrived, rest⟩, some (), after⟩ :: earlier) after ∧
      RemovesLive onNode "uid-b" "main" ⟨⟨arrived, rest⟩, some (), after⟩ := by
  obtain ⟨trace, run⟩ := toldPods onNode rfl (by decide +kernel) (told_podOf [] []) []
  have run := run.step (.schedule { store := { pods := [podOf "uid-b"] } } (by decide))
  have run := run.step (.allocate agent (podOf "uid-b") ⟨"main", [], .empty⟩ rfl (by decide) rfl)
  have run : Run (Step onNode) ⟨worldOf [] [], onNode.update []⟩ _ ⟨arrived, onNode.survey _ []⟩ := run
  exact removesLive "uid-b" "main" [] ("uid-b", "main") run (by decide +kernel) (by decide +kernel)
    (by decide +kernel) (by decide +kernel) (by decide +kernel) (by decide +kernel)

-- The pod may have come in between, or its UID may not be told from the name of its directory.
theorem removes_live_directories :
    (∃ earlier transition after,
      Run (Step onNode) ⟨worldOf [] [], onNode.update []⟩ (transition :: earlier) after ∧
        RemovesLive onNode "uid-b" "main" transition) ∧
    (∃ earlier transition after,
      Run (Step onNode) ⟨worldOf ["uid_live"] ["uid_live_main"], onNode.update []⟩
          (transition :: earlier) after ∧
        RemovesLive onNode "uid_live" "main" transition) := by
  constructor
  · obtain ⟨earlier, rest, after, run, removes⟩ := race
    exact ⟨earlier, _, after, run, removes⟩
  · obtain ⟨trace, run⟩ := toldPods onNode rfl (by decide +kernel)
      (told_podOf ["uid_live"] ["uid_live_main"]) []
    obtain ⟨earlier, rest, after, run, removes⟩ := removesLive "uid_live" "main" []
      ("uid", "live_main") run (by decide +kernel) (by decide +kernel) (by decide +kernel)
      (by decide +kernel) (by decide +kernel) (by decide +kernel)
    exact ⟨earlier, _, after, run, removes⟩

theorem clears_departed_arrived : ∃ earlier transition after,
    Run (Step onNode) ⟨worldOf [] [], onNode.update []⟩ (transition :: earlier) after ∧
      Clears onNode "uid-b" "main" earlier transition ∧ WasGone onNode earlier "uid-b" := by
  obtain ⟨earlier, rest, after, run, removes⟩ := race
  have names : (worldOf [] []).disk.HasNames := by
    unfold Disk.HasNames
    decide
  have named : NamesContainer "uid-b" "main" := ⟨by decide, by decide, by decide, by decide⟩
  have clears := clears_departed run rfl names named (List.nil_append _).symm
  exact ⟨earlier, _, after, run, clears, clears.removed removes.removes⟩

end Lister

end GpuShare.Agent
