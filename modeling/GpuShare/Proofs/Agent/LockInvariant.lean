import GpuShare.Proofs.Cluster.Annotation
import GpuShare.Proofs.Agent.LockProtocol
import GpuShare.Proofs.Agent.LockProgress

/-!
The invariant of a shared lock. A stamp that is owed is the value of the lock, or old enough to be
taken for abandoned. So that a manager which was slow between its reads and its write keeps to this,
what it knows of a node that has not changed includes that the stamps which are gone were old by then.
-/

set_option autoImplicit false

namespace GpuShare.Agent.NodeLock

open Cluster Program Attempt Time

variable {ι : Type}

def Readable (time : Instant) : Prop := Instant.ofRfc3339? time.toRfc3339 = some time

instance (time : Instant) : Decidable (Readable time) :=
  inferInstanceAs (Decidable (Instant.ofRfc3339? time.toRfc3339 = some time))

def StaleBy (time : Instant) (stamp : String) : Prop :=
  ∃ taken, Instant.ofRfc3339? stamp = some taken ∧ taken + staleAge ≤ time

def Aware (lock : NodeLock) (scene : Scene ι) : Knowledge → Prop
  | .nothing | .wrote _ => True
  | .read node times =>
    (∃ version ∈ scene.versions, node.metadata.resourceVersion = some version) ∧
      times.Pairwise (fun later earlier => earlier ≤ later) ∧
      (∀ time ∈ times, time ≤ scene.clock ∧ Readable time) ∧
      (scene.node.metadata.resourceVersion = node.metadata.resourceVersion →
        scene.node = node ∧ ∀ i, ∀ stamp ∈ (scene.managers i).owed,
          scene.value lock = some stamp ∨ ∀ time ∈ times, StaleBy time stamp)

def Engaged (lock : NodeLock) (scene : Scene ι) (owed : List String) : Activity → Prop
  | .idle => True
  | .acquiring rest => ∃ knowledge, Aware lock scene knowledge ∧
      rest.Follows (lock.protocol lock.MayTake)
        (Outcome (fun knowledge stamp => knowledge = .wrote (.one lock.key (some stamp))) Unchanged)
        knowledge
  | .releasing stamp rest => stamp ∈ owed ∧ ∃ knowledge, Aware lock scene knowledge ∧
      rest.Follows (lock.protocol (lock.MayDrop stamp))
        (Outcome
          (fun knowledge _ => knowledge = .wrote (.one lock.key none) ∨ ∃ node times,
            knowledge = .read node times ∧ node.metadata.annotation? lock.key ≠ some stamp)
          Unchanged)
        knowledge

/-- An owed stamp is in its place, or abandoned. -/
def Standing (lock : NodeLock) (trace : List (Transition (Scene ι) ι)) (scene : Scene ι) (i : ι)
    (stamp : String) : Prop :=
  (scene.value lock = some stamp ∧ Placed lock trace i stamp ∧
      ∃ taken, Instant.ofRfc3339? stamp = some taken ∧ taken ≤ scene.clock) ∨
    (scene.value lock ≠ some stamp ∧ StaleBy scene.clock stamp)

structure Sound (lock : NodeLock) (trace : List (Transition (Scene ι) ι)) (scene : Scene ι) : Prop where
  versioned : ∃ version ∈ scene.versions, scene.node.metadata.resourceVersion = some version
  engaged : ∀ i, Engaged lock scene (scene.managers i).owed (scene.managers i).activity
  standing : ∀ i, ∀ stamp ∈ (scene.managers i).owed, Standing lock trace scene i stamp
  nodup : ∀ i, (scene.managers i).owed.Nodup
  apart : ∀ i j stamp, stamp ∈ (scene.managers i).owed → stamp ∈ (scene.managers j).owed → i = j

variable {lock : NodeLock} {trace : List (Transition (Scene ι) ι)} {scene after : Scene ι}

theorem StaleBy.mono {earlier later : Instant} {stamp : String} (stale : StaleBy earlier stamp)
    (le : earlier ≤ later) : StaleBy later stamp := by
  obtain ⟨taken, reads, old⟩ := stale
  exact ⟨taken, reads, Int.le_trans old le⟩

theorem not_staleBy_self {time : Instant} (readable : Readable time) :
    ¬ StaleBy time time.toRfc3339 := by
  rintro ⟨taken, reads, old⟩
  rw [readable] at reads
  cases reads
  have positive : 0 < staleAge := by decide
  exact absurd old (Int.not_le.2 (Int.lt_add_of_pos_right time positive))

-- What is known of the node stays known while the node stays as it is, and says nothing about it once it is
-- written.
theorem Aware.later {knowledge : Knowledge} (aware : Aware lock scene knowledge)
    (clock : scene.clock ≤ after.clock) (versions : scene.versions ⊆ after.versions)
    (node : (after.node = scene.node ∧
        ∀ i, (after.managers i).owed ⊆ (scene.managers i).owed) ∨
      ∃ version, version ∉ scene.versions ∧
        after.node.metadata.resourceVersion = some version) :
    Aware lock after knowledge := by
  cases knowledge with
  | nothing => trivial
  | wrote patch => trivial
  | read known times =>
    obtain ⟨⟨version, member, has⟩, descending, past, current⟩ := aware
    refine ⟨⟨version, versions member, has⟩, descending,
      fun time read => ⟨Int.le_trans (past time read).1 clock, (past time read).2⟩,
      fun same => ?_⟩
    rcases node with ⟨unchanged, owed⟩ | ⟨fresh, unused, written⟩
    · rw [unchanged] at same
      obtain ⟨equal, others⟩ := current same
      refine ⟨unchanged.trans equal, fun i stamp member => ?_⟩
      have value : after.value lock = scene.value lock := by
        rw [Scene.value, Scene.value, unchanged]
      rw [value]
      exact others i stamp (owed i member)
    · rw [written, has] at same
      cases same
      exact absurd member unused

theorem Engaged.later {owed : List String} {activity : Activity}
    (engaged : Engaged lock scene owed activity)
    (clock : scene.clock ≤ after.clock) (versions : scene.versions ⊆ after.versions)
    (node : (after.node = scene.node ∧
        ∀ i, (after.managers i).owed ⊆ (scene.managers i).owed) ∨
      ∃ version, version ∉ scene.versions ∧
        after.node.metadata.resourceVersion = some version) :
    Engaged lock after owed activity := by
  cases activity with
  | idle => trivial
  | acquiring rest =>
    obtain ⟨knowledge, aware, follows⟩ := engaged
    exact ⟨knowledge, aware.later clock versions node, follows⟩
  | releasing stamp rest =>
    obtain ⟨member, knowledge, aware, follows⟩ := engaged
    exact ⟨member, knowledge, aware.later clock versions node, follows⟩

-- An answer leaves the scene alone and adds to what is known, or it is a write of the node as it was read.
theorem reply_cases {may : Node → List Instant → Patch → Prop} {knowledge : Knowledge}
    {request : Request} {answer : Answer request} (sound : Sound lock trace scene)
    (readable : Readable scene.clock) (aware : Aware lock scene knowledge)
    (allowed : (lock.protocol may).allows knowledge request)
    (reply : Reply lock scene request answer after) :
    (after = scene ∧ Aware lock scene (knowledge.learn request answer) ∧
      (knowledge.learn request answer).Unwritten) ∨
    ∃ times patch version, knowledge = .read scene.node times ∧ may scene.node times patch ∧
      version ∉ scene.versions ∧ knowledge.learn request answer = .wrote patch ∧
      after = scene.write ⟨scene.node.metadata.patched patch version⟩ version := by
  obtain ⟨unwritten, fits⟩ := allowed
  cases reply with
  | read =>
    refine .inl ⟨rfl, ⟨sound.versioned, .nil, List.forall_mem_nil _, fun _ => ?_⟩,
      Knowledge.unwritten_read _ _⟩
    exact ⟨rfl, fun i stamp member => .inr (List.forall_mem_nil _)⟩
  | written patch guard version holds unused =>
    obtain ⟨-, node, times, rfl, rfl, allowed⟩ := fits
    obtain ⟨⟨read, -, has⟩, -, -, current⟩ := aware
    have same : scene.node.metadata.resourceVersion = node.metadata.resourceVersion := by
      rw [has] at holds ⊢
      simpa [Store.guardHolds] using holds
    obtain ⟨rfl, -⟩ := current same
    exact .inr ⟨times, patch, version, rfl, allowed, unused, rfl, rfl⟩
  | failed call error =>
    refine .inl ⟨rfl, ?_⟩
    cases call with
    | getNode name => exact ⟨trivial, Knowledge.unwritten_nothing⟩
    | patchNode name patch guard => exact ⟨trivial, Knowledge.unwritten_nothing⟩
    | listPods => exact ⟨aware, unwritten⟩
    | getPod ns name => exact ⟨aware, unwritten⟩
    | patchPod ns name patch guard => exact ⟨aware, unwritten⟩
    | getConfigMap ns name => exact ⟨aware, unwritten⟩
  | now =>
    refine .inl ⟨rfl, ?_⟩
    cases knowledge with
    | nothing => exact ⟨trivial, unwritten⟩
    | wrote patch => exact absurd rfl (unwritten patch)
    | read node times =>
      obtain ⟨versioned, descending, past, current⟩ := aware
      refine ⟨⟨versioned, ?_, ?_, fun same => ?_⟩, Knowledge.unwritten_read _ _⟩
      · exact List.pairwise_cons.2 ⟨fun time member => (past time member).1, descending⟩
      · rintro time (_ | ⟨_, member⟩)
        · exact ⟨Int.le_refl _, readable⟩
        · exact past time member
      · obtain ⟨equal, others⟩ := current same
        refine ⟨equal, fun i stamp owed => ?_⟩
        rcases sound.standing i stamp owed with ⟨there, -, -⟩ | ⟨-, stale⟩
        · exact .inl there
        · rcases others i stamp owed with there | old
          · exact .inl there
          · refine .inr fun time member => ?_
            rcases List.mem_cons.1 member with rfl | earlier
            · exact stale
            · exact old time earlier
  | slept milliseconds => exact .inl ⟨rfl, aware, unwritten⟩

-- A lock that may be taken lets its taker in no earlier than every owed stamp is old.
theorem MayTake.stale {times : List Instant} {patch : Patch} (sound : Sound lock trace scene)
    (aware : Aware lock scene (.read scene.node times))
    (may : lock.MayTake scene.node times patch) :
    ∃ now, patch = .one lock.key (some now.toRfc3339) ∧ now ≤ scene.clock ∧ Readable now ∧
      scene.value lock ≠ some now.toRfc3339 ∧
      ∀ i, ∀ stamp ∈ (scene.managers i).owed, StaleBy now stamp := by
  obtain ⟨now, earlier, rfl, rfl, free⟩ := may
  obtain ⟨-, descending, past, current⟩ := aware
  obtain ⟨le, readable⟩ := past now List.mem_cons_self
  -- Whatever the lock says, it was old at a time that was read, and `now` was read last.
  have expired : ∀ stamp taken, scene.value lock = some stamp →
      Instant.ofRfc3339? stamp = some taken → StaleBy now stamp := by
    intro stamp taken held reads
    obtain ⟨time, member, old⟩ := free stamp taken held reads
    have last : time ≤ now := by
      rcases List.mem_cons.1 member with rfl | before
      · exact Int.le_refl _
      · exact (List.pairwise_cons.1 descending).1 time before
    refine ⟨taken, reads, ?_⟩
    have sum : taken + staleAge ≤ time := by
      rw [Int.add_comm]
      exact Int.add_le_of_le_sub_right old
    exact Int.le_trans sum last
  refine ⟨now, rfl, le, readable, fun held => ?_, fun i stamp owed => ?_⟩
  · exact not_staleBy_self readable (expired _ now held readable)
  · rcases (current rfl).2 i stamp owed with there | stale
    · rcases sound.standing i stamp owed with ⟨-, -, taken, reads, -⟩ | ⟨gone, -⟩
      · exact expired stamp taken there reads
      · exact absurd there gone
    · exact stale now List.mem_cons_self

variable [DecidableEq ι]

/-- A step that leaves the lock alone, and in which no acquire returns a stamp. -/
structure Quiet (lock : NodeLock) (scene after : Scene ι) : Prop where
  value : after.value lock = scene.value lock
  clock : scene.clock ≤ after.clock
  versions : scene.versions ⊆ after.versions
  versioned : ∃ version ∈ after.versions, after.node.metadata.resourceVersion = some version
  owed : ∀ i, (after.managers i).owed.Sublist (scene.managers i).owed
  engaged : ∀ i, Engaged lock after (after.managers i).owed (after.managers i).activity

/-- An acquire writes the lock and returns: every stamp that is owed then is old. -/
def Taking (lock : NodeLock) (scene : Scene ι) (i : ι) (after : Scene ι) : Prop :=
  ∃ now version rest, (scene.managers i).activity = .acquiring rest ∧ now ≤ scene.clock ∧
    Readable now ∧ version ∉ scene.versions ∧ scene.value lock ≠ some now.toRfc3339 ∧
    (∀ j, ∀ stamp ∈ (scene.managers j).owed, StaleBy now stamp) ∧
    after = (scene.write
        ⟨scene.node.metadata.patched (.one lock.key (some now.toRfc3339)) version⟩ version).setManager
      i ⟨now.toRfc3339 :: (scene.managers i).owed, .idle⟩

def Dropping (lock : NodeLock) (scene : Scene ι) (i : ι) (after : Scene ι) : Prop :=
  ∃ stamp rest version, (scene.managers i).activity = .releasing stamp rest ∧
    stamp ∈ (scene.managers i).owed ∧ scene.value lock = some stamp ∧ version ∉ scene.versions ∧
    after = (scene.write
        ⟨scene.node.metadata.patched (.one lock.key none) version⟩ version).setManager
      i ⟨(scene.managers i).owed.erase stamp, .idle⟩

theorem Quiet.ofManager (sound : Sound lock trace scene) (i : ι) (manager : Manager)
    (owed : manager.owed.Sublist (scene.managers i).owed)
    (engaged : Engaged lock scene manager.owed manager.activity) :
    Quiet lock scene (scene.setManager i manager) := by
  have shrinks : ∀ j, ((scene.setManager i manager).managers j).owed.Sublist
      (scene.managers j).owed := by
    intro j
    by_cases same : j = i
    · subst same
      rw [managers_setManager_self]
      exact owed
    · rewrite [managers_setManager_ne _ _ same]
      exact List.Sublist.refl _
  have kept : (scene.setManager i manager).node = scene.node ∧
      ∀ j, ((scene.setManager i manager).managers j).owed ⊆ (scene.managers j).owed :=
    ⟨rfl, fun j => (shrinks j).subset⟩
  refine ⟨rfl, Int.le_refl _, List.Subset.refl _, sound.versioned, shrinks, fun j => ?_⟩
  by_cases same : j = i
  · subst same
    rw [managers_setManager_self]
    exact engaged.later (Int.le_refl _) (List.Subset.refl _) (.inl kept)
  · rw [managers_setManager_ne _ _ same]
    exact (sound.engaged j).later (Int.le_refl _) (List.Subset.refl _) (.inl kept)

omit [DecidableEq ι] in
-- An acquire that has not written goes on, or returns without a stamp.
theorem acquire_unwritten {knowledge : Knowledge} (manager : Manager)
    {rest : Program interface (Except NodeLockError String)}
    (aware : Aware lock scene knowledge) (unwritten : knowledge.Unwritten)
    (follows : rest.Follows (lock.protocol lock.MayTake)
      (Outcome (fun knowledge stamp => knowledge = .wrote (.one lock.key (some stamp))) Unchanged)
      knowledge) :
    (manager.acquire rest).owed = manager.owed ∧
      Engaged lock scene (manager.acquire rest).owed (manager.acquire rest).activity := by
  cases rest with
  | done outcome =>
    cases outcome with
    | ok stamp => exact absurd follows (unwritten _)
    | error error => exact ⟨rfl, trivial⟩
  | ask request next => exact ⟨rfl, knowledge, aware, follows⟩

omit [DecidableEq ι] in
-- A release that has not written goes on, or returns.
theorem release_unwritten {knowledge : Knowledge} {manager : Manager} {stamp : String}
    {rest : Program interface (Except NodeLockError Unit)}
    (member : stamp ∈ manager.owed) (aware : Aware lock scene knowledge)
    (follows : rest.Follows (lock.protocol (lock.MayDrop stamp))
      (Outcome
        (fun knowledge _ => knowledge = .wrote (.one lock.key none) ∨ ∃ node times,
          knowledge = .read node times ∧ node.metadata.annotation? lock.key ≠ some stamp)
        Unchanged)
      knowledge) :
    (manager.release stamp rest).owed.Sublist manager.owed ∧
      Engaged lock scene (manager.release stamp rest).owed
        (manager.release stamp rest).activity := by
  cases rest with
  | done outcome =>
    cases outcome with
    | ok written => exact ⟨List.erase_sublist, trivial⟩
    | error error => exact ⟨List.Sublist.refl _, trivial⟩
  | ask request next => exact ⟨List.Sublist.refl _, member, knowledge, aware, follows⟩

omit [DecidableEq ι] in
-- A write is the last request: only a success follows it.
theorem done_of_wrote {α : Type} {may : Node → List Instant → Patch → Prop} {patch : Patch}
    {good : Knowledge → α → Prop} {rest : Program interface (Except NodeLockError α)}
    (follows : rest.Follows (lock.protocol may) (Outcome good Unchanged) (.wrote patch)) :
    ∃ a, rest = .done (.ok a) ∧ good (.wrote patch) a := by
  cases rest with
  | done outcome =>
    cases outcome with
    | ok a => exact ⟨a, rfl, follows⟩
    | error error => exact absurd rfl (follows patch)
  | ask request next => exact absurd rfl (follows.1.1 patch)

-- What any step does.
theorem step_cases {actor : Option ι} (sound : Sound lock trace scene)
    (readable : Readable scene.clock) (step : Step lock scene actor after) :
    Quiet lock scene after ∨ ∃ i, actor = some i ∧
      (Taking lock scene i after ∨ Dropping lock scene i after) := by
  cases step with
  | tick time later =>
    refine .inl ⟨rfl, later, List.Subset.refl _, sound.versioned, fun i => List.Sublist.refl _,
      fun i => (sound.engaged i).later later (List.Subset.refl _) (.inl ⟨rfl, fun _ => ?_⟩)⟩
    exact List.Subset.refl _
  | foreign node version has unused kept =>
    have versions : scene.versions ⊆ (scene.write node version).versions := List.subset_cons_self ..
    exact .inl ⟨kept, Int.le_refl _, versions, ⟨version, List.mem_cons_self, has⟩,
      fun i => List.Sublist.refl _,
      fun i => (sound.engaged i).later (Int.le_refl _) versions (.inr ⟨version, unused, has⟩)⟩
  | toAcquire i idle =>
    have known : Aware lock scene .nothing := trivial
    have begun := acquire_unwritten (scene.managers i) known Knowledge.unwritten_nothing
      lock.acquire_follows
    exact .inl (.ofManager sound i _ (begun.1 ▸ List.Sublist.refl _) begun.2)
  | toRelease i stamp idle owed =>
    have known : Aware lock scene .nothing := trivial
    have begun := release_unwritten owed known (lock.release_follows stamp)
    exact .inl (.ofManager sound i _ begun.1 begun.2)
  | acquire i request next answer answered busy reply =>
    have engaged := sound.engaged i
    rw [busy] at engaged
    obtain ⟨knowledge, aware, allowed, follows⟩ := engaged
    rcases reply_cases sound readable aware allowed reply with
      ⟨rfl, learned, unwritten⟩ | ⟨times, patch, version, rfl, may, unused, wrote, rfl⟩
    · have resumed := acquire_unwritten (answered.managers i) learned unwritten (follows answer)
      exact .inl (.ofManager sound i _ (resumed.1 ▸ List.Sublist.refl _) resumed.2)
    · have rest := follows answer
      rw [protocol_next, wrote] at rest
      obtain ⟨stamp, returned, same⟩ := done_of_wrote rest
      obtain ⟨now, rfl, past, reads, changes, stale⟩ := may.stale sound aware
      have stamped : now.toRfc3339 = stamp :=
        Option.some.inj (Patch.one_injective (Knowledge.wrote.inj same))
      refine .inr ⟨i, rfl, .inl ⟨now, version, _, busy, past, reads, unused, changes, stale, ?_⟩⟩
      rw [returned, ← stamped]
      rfl
  | release i stamp request next answer answered busy reply =>
    have engaged := sound.engaged i
    rw [busy] at engaged
    obtain ⟨owed, knowledge, aware, allowed, follows⟩ := engaged
    rcases reply_cases sound readable aware allowed reply with
      ⟨rfl, learned, -⟩ | ⟨times, patch, version, rfl, ⟨rfl, held⟩, unused, wrote, rfl⟩
    · have resumed := release_unwritten owed learned (follows answer)
      exact .inl (.ofManager sound i _ resumed.1 resumed.2)
    · have rest := follows answer
      rw [protocol_next, wrote] at rest
      obtain ⟨_, returned, -⟩ := done_of_wrote rest
      refine .inr ⟨i, rfl, .inr ⟨stamp, _, version, busy, owed, held, unused, ?_⟩⟩
      rw [returned]
      rfl

omit [DecidableEq ι] in
-- A stamp stays placed while the lock keeps it and it is owed.
theorem Placed.later {i : ι} {stamp : String} {transition : Transition (Scene ι) ι}
    (placed : Placed lock trace i stamp) (value : transition.after.value lock = some stamp)
    (owed : stamp ∈ (transition.after.managers i).owed) :
    Placed lock (transition :: trace) i stamp := by
  obtain ⟨later, taking, earlier, rfl, acquires, before, put, since⟩ := placed
  refine ⟨transition :: later, taking, earlier, rfl, acquires, before, put, ?_⟩
  rintro other (_ | ⟨_, member⟩)
  · exact ⟨value, owed⟩
  · exact since other member

omit [DecidableEq ι] in
theorem Sound.quiet {actor : Option ι} (sound : Sound lock trace scene)
    (quiet : Quiet lock scene after) : Sound lock (⟨scene, actor, after⟩ :: trace) after := by
  refine ⟨quiet.versioned, quiet.engaged, fun i stamp owed => ?_,
    fun i => (sound.nodup i).sublist (quiet.owed i), fun i j stamp first second => ?_⟩
  · rcases sound.standing i stamp ((quiet.owed i).subset owed) with
      ⟨held, placed, taken, reads, past⟩ | ⟨gone, stale⟩
    · have stays : after.value lock = some stamp := quiet.value.trans held
      exact .inl ⟨stays, placed.later stays owed, taken, reads, Int.le_trans past quiet.clock⟩
    · exact .inr ⟨fun there => gone (quiet.value.symm.trans there), stale.mono quiet.clock⟩
  · exact sound.apart i j stamp ((quiet.owed i).subset first) ((quiet.owed j).subset second)

-- A write of the node by a manager that has returned leaves the others in their calls.
theorem Sound.engaged_written {i : ι} {node : Node} {version : String} {owed : List String}
    (sound : Sound lock trace scene) (unused : version ∉ scene.versions)
    (has : node.metadata.resourceVersion = some version) (j : ι) :
    Engaged lock ((scene.write node version).setManager i ⟨owed, .idle⟩)
      (((scene.write node version).setManager i ⟨owed, .idle⟩).managers j).owed
      (((scene.write node version).setManager i ⟨owed, .idle⟩).managers j).activity := by
  by_cases same : j = i
  · subst same
    simp [Scene.setManager, Engaged]
  · have there : ((scene.write node version).setManager i ⟨owed, .idle⟩).managers j =
        scene.managers j := Function.update_of_ne same ..
    rw [there]
    exact (sound.engaged j).later (Int.le_refl _) (List.subset_cons_self ..)
      (.inr ⟨version, unused, has⟩)

theorem value_written (lock : NodeLock) (scene : Scene ι) (value : Option String) (version : String) (i : ι) (manager : Manager) :
    ((scene.write ⟨scene.node.metadata.patched (.one lock.key value) version⟩ version).setManager i
      manager).value lock = value := by
  show (scene.node.metadata.patched (.one lock.key value) version).annotation? lock.key = value
  rw [annotation?_patched_one, if_pos rfl]

theorem owed_setManager (scene : Scene ι) (i j : ι) (owed : List String) :
    ((scene.setManager i ⟨owed, .idle⟩).managers j).owed =
      if j = i then owed else (scene.managers j).owed := by
  by_cases same : j = i
  · subst same
    rw [managers_setManager_self, if_pos rfl]
  · rw [managers_setManager_ne _ _ same, if_neg same]

theorem Sound.taking {i : ι} (sound : Sound lock trace scene) (taking : Taking lock scene i after) :
    Sound lock (⟨scene, some i, after⟩ :: trace) after := by
  obtain ⟨now, version, rest, busy, past, readable, unused, changes, stale, rfl⟩ := taking
  have new : ∀ j, now.toRfc3339 ∉ (scene.managers j).owed :=
    fun j owed => not_staleBy_self readable (stale j _ owed)
  have owes : ∀ j stamp, stamp ∈ (if j = i then now.toRfc3339 :: (scene.managers i).owed
      else (scene.managers j).owed) →
      (j = i ∧ stamp = now.toRfc3339) ∨ stamp ∈ (scene.managers j).owed := by
    intro j stamp member
    by_cases same : j = i
    · subst same
      rw [if_pos rfl] at member
      exact (List.mem_cons.1 member).imp_left fun equal => ⟨rfl, equal⟩
    · rw [if_neg same] at member
      exact .inr member
  refine ⟨⟨version, List.mem_cons_self, rfl⟩, sound.engaged_written unused rfl,
    fun j stamp member => ?_, fun j => ?_, fun j k stamp first second => ?_⟩
  · rw [owed_setManager] at member
    rcases owes j stamp member with ⟨rfl, rfl⟩ | before
    · have put := value_written lock scene (some now.toRfc3339) version j
        ⟨now.toRfc3339 :: (scene.managers j).owed, .idle⟩
      refine .inl ⟨put, ⟨[], _, trace, rfl, ⟨rfl, ?_⟩, changes, put, fun _ => nofun⟩, now, readable,
        past⟩
      exact (owed_setManager _ j j _).trans (if_pos rfl)
    · refine .inr ⟨fun held => ?_, (stale j stamp before).mono past⟩
      have equal : now.toRfc3339 = stamp := Option.some.inj ((value_written ..).symm.trans held)
      exact new j (equal ▸ before)
  · rw [owed_setManager]
    split
    · exact List.nodup_cons.2 ⟨new i, sound.nodup i⟩
    · exact sound.nodup j
  · rw [owed_setManager] at first second
    rcases owes j stamp first with ⟨rfl, rfl⟩ | old
    · rcases owes k _ second with ⟨rfl, -⟩ | old
      · rfl
      · exact absurd old (new k)
    · rcases owes k stamp second with ⟨rfl, rfl⟩ | other
      · exact absurd old (new j)
      · exact sound.apart j k stamp old other

theorem Sound.dropping {i : ι} (sound : Sound lock trace scene)
    (dropping : Dropping lock scene i after) :
    Sound lock (⟨scene, some i, after⟩ :: trace) after := by
  obtain ⟨stamp, rest, version, busy, owed, held, unused, rfl⟩ := dropping
  have keeps : ∀ j, (if j = i then (scene.managers i).owed.erase stamp
      else (scene.managers j).owed).Sublist (scene.managers j).owed := by
    intro j
    split
    · next same => exact same ▸ List.erase_sublist
    · exact List.Sublist.refl _
  refine ⟨⟨version, List.mem_cons_self, rfl⟩, sound.engaged_written unused rfl,
    fun j other member => ?_, fun j => ?_, fun j k other first second => ?_⟩
  · rw [owed_setManager] at member
    have before := (keeps j).subset member
    have differs : other ≠ stamp := by
      rintro rfl
      have same := sound.apart j i other before owed
      rw [if_pos same] at member
      exact List.Nodup.not_mem_erase (sound.nodup i) member
    refine .inr ⟨fun there => ?_, ?_⟩
    · rw [value_written] at there
      cases there
    · rcases sound.standing j other before with ⟨here, -, -⟩ | ⟨-, stale⟩
      · exact absurd (Option.some.inj (here.symm.trans held)) differs
      · exact stale
  · rw [owed_setManager]
    exact (sound.nodup j).sublist (keeps j)
  · rw [owed_setManager] at first second
    exact sound.apart j k other ((keeps j).subset first) ((keeps k).subset second)

-- Every step keeps what holds of a shared lock.
theorem Sound.step {actor : Option ι} (sound : Sound lock trace scene)
    (readable : Readable scene.clock) (step : Step lock scene actor after) :
    Sound lock (⟨scene, actor, after⟩ :: trace) after := by
  rcases step_cases sound readable step with quiet | ⟨i, rfl, taking | dropping⟩
  · exact sound.quiet quiet
  · exact sound.taking taking
  · exact sound.dropping dropping

-- What holds of a shared lock holds in every run.
theorem sound_of_run {start : Scene ι} (run : Run (Step lock) start trace scene) (initial : start.IsInitial)
    (readable : ∀ transition ∈ trace, Readable transition.before.clock) :
    Sound lock trace scene := by
  induction run with
  | start =>
    obtain ⟨free, versioned⟩ := initial
    have owes : ∀ i, (start.managers i).owed = [] := fun i => by rw [free]
    refine ⟨versioned, fun i => ?_, fun i stamp member => ?_, fun i => ?_, fun i j stamp member => ?_⟩
    · rw [free]
      trivial
    · rw [owes] at member
      exact nomatch member
    · rw [owes]
      exact .nil
    · rw [owes] at member
      exact nomatch member
  | step run step ih =>
    have before := ih fun transition member => readable transition (List.mem_cons_of_mem _ member)
    have here := readable _ List.mem_cons_self
    exact before.step here step

end GpuShare.Agent.NodeLock
