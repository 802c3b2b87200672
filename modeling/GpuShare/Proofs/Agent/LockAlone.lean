import GpuShare.Proofs.Agent.Calm

/-!
A lock on a node that nobody else writes. Its first writes may meet a conflict all the same, and each of
them is made again in the next attempt. An acquire is let in by the age of the lock, in whatever way its value
is read; everything else is a matter of how many conflicts there are. Each attempt looks at the clock again, so
where the lock gets no younger in between, the first look decides.
-/

set_option autoImplicit false

namespace GpuShare.Cluster.Store

variable {store : Store} {name : String} {patch : Patch} {guard : Option String} {node : Node}

theorem patchNode_conflict (guarded : guard.isSome = true) (due : 0 < store.nodeConflicts) :
    store.patchNode name patch guard = (.error (.conflict (nodeResource name)),
      { store with nodeConflicts := store.nodeConflicts - 1 }) := by
  simp only [patchNode, guarded, takeNodeConflict, due, if_true]

end GpuShare.Cluster.Store

namespace GpuShare.Agent.World

variable {world middle after : World} {met more : Nat} {name version : String} {node : Cluster.Node}
  {patch : Cluster.Patch}

def conflicts (world : World) : Nat := world.connection.store.nodeConflicts

def meeting (world : World) (conflicts : Nat) : World :=
  world.mapStore fun store => { store with nodeConflicts := conflicts }

def annotation? (world : World) (name key : String) : Option String :=
  (world.view.nodes.get? name).bind (·.metadata.annotation? key)

-- The annotations of all nodes after a write to one.
theorem annotation?_written (found : world.view.nodes.get? name = some node)
    (written : after.view.nodes = world.view.nodes.insert name ⟨node.metadata.patched patch version⟩)
    (other key : String) : after.annotation? other key =
      if other = name then (patch.get? key).getD (world.annotation? other key)
      else world.annotation? other key := by
  rw [annotation?, annotation?, written, Dictionary.get?_insert]
  by_cases here : other = name
  · simp [here, found, Cluster.annotation?_patched]
  · simp [here]

/-- Some time has passed and some conflicts were met; else nothing has changed. -/
structure Passes (world after : World) (met : Nat) : Prop where
  view : after.view = world.view
  faults : after.connection.faults = world.connection.faults
  conflicts : after.conflicts = world.conflicts - met

theorem Passes.refl (world : World) : world.Passes world 0 := ⟨rfl, rfl, rfl⟩

theorem Passes.trans (first : world.Passes middle met) (second : middle.Passes after more) :
    world.Passes after (met + more) where
  view := second.view.trans first.view
  faults := second.faults.trans first.faults
  conflicts := by rw [second.conflicts, first.conflicts, Nat.sub_sub]

theorem passes_now (world : World) : world.Passes (serve .now world).2 0 := ⟨rfl, rfl, rfl⟩

end GpuShare.Agent.World

namespace GpuShare.Agent.NodeLock

open Cluster Time

variable {α : Type} {format : StampFormat} {lock : NodeLock} {world after : World} {node : Node}
  {stamp : String} {attempt met : Nat} {attempts : List Nat}

/-! ## One attempt -/

/-- A node lets an acquire in: it has no lock, one whose value cannot be read, or one that is five minutes old
or older. -/
inductive LetsIn (format : StampFormat) (lock : NodeLock) (node : Node) (now : Instant) : Prop where
  | absent : node.metadata.annotation? lock.key = none → LetsIn format lock node now
  | unreadable (value : String) : node.metadata.annotation? lock.key = some value →
      format.age? value = none → LetsIn format lock node now
  | abandoned (value : String) (age : Instant → Int) : node.metadata.annotation? lock.key = some value →
      format.age? value = some age → 5 * 60 * nanosPerSecond ≤ age now → LetsIn format lock node now

def GetsOlder (format : StampFormat) (lock : NodeLock) (node : Node) : Prop :=
  ∀ value age, node.metadata.annotation? lock.key = some value → format.age? value = some age →
    ∀ now later, now ≤ later → age now ≤ age later

theorem LetsIn.later {now later : Instant} (lets : LetsIn format lock node now)
    (older : GetsOlder format lock node) (past : now ≤ later) : LetsIn format lock node later := by
  cases lets with
  | absent none => exact .absent none
  | unreadable value held unread => exact .unreadable value held unread
  | abandoned value age held reads old =>
    exact .abandoned value age held reads (Int.le_trans old (older value age held reads now later past))

theorem age?_rfc3339 {text : String} {taken : Instant} (reads : Instant.ofRfc3339? text = some taken) :
    StampFormat.rfc3339.age? text = some fun now => now - taken := by
  simp only [StampFormat.rfc3339, reads, Option.map_some]

/-- What is read in the RFC 3339 format gets older with the clock. -/
theorem getsOlder_rfc3339 (lock : NodeLock) (node : Node) : GetsOlder .rfc3339 lock node := by
  intro value age _ reads now later past
  obtain ⟨taken, -, rfl⟩ := Option.map_eq_some_iff.1 reads
  exact Int.sub_le_sub_right past taken

theorem isFresh_iff (age : Int) : isFresh age = true ↔ ¬ 5 * 60 * nanosPerSecond ≤ age := by
  rw [isFresh, decide_eq_true_iff, Int.not_le]
  rfl

/-- What passes on the clock in an attempt. It is looked at for the stamp, and before that for the age of a lock
that has one. -/
def attemptTime (format : StampFormat) (lock : NodeLock) (node : Node) : Int :=
  match (node.metadata.annotation? lock.key).bind format.age? with
  | some _ => 2 * World.clockStep
  | none => World.clockStep

def lookAfter (format : StampFormat) (lock : NodeLock) (node : Node) (world : World) (met : Nat) : Instant :=
  world.clock + met * attemptTime format lock node

theorem lookAfter_zero (format : StampFormat) (lock : NodeLock) (node : Node) (world : World) :
    lookAfter format lock node world 0 = world.clock := by
  simp [lookAfter]

theorem lookAfter_succ (on : after.clock = world.clock + attemptTime format lock node) {met : Nat} :
    lookAfter format lock node after met = lookAfter format lock node world (met + 1) := by
  rw [lookAfter, lookAfter, on, Int.natCast_succ, Int.add_mul, Int.one_mul, Int.add_assoc,
    Int.add_comm (attemptTime format lock node)]

theorem le_lookAfter (format : StampFormat) (lock : NodeLock) (node : Node) (world : World) (met : Nat) :
    world.clock ≤ lookAfter format lock node world met := by
  have forward : 0 ≤ attemptTime format lock node := by
    unfold attemptTime
    split
    · decide
    · decide
  exact Int.le_add_of_nonneg_right (Int.mul_nonneg (Int.natCast_nonneg met) forward)

/-- Calls on the cluster arrive, the node of a lock is there, and writes to it are guarded. -/
structure IsAlone (lock : NodeLock) (world : World) (node : Node) : Prop where
  faults : world.connection.faults = []
  found : world.view.nodes.get? lock.node = some node
  versioned : node.metadata.resourceVersion.isSome = true

theorem IsAlone.passes (alone : lock.IsAlone world node) (passes : world.Passes after met) :
    lock.IsAlone after node :=
  ⟨passes.faults.trans alone.faults, by rw [passes.view]; exact alone.found, alone.versioned⟩

theorem IsAlone.run_readNode (alone : lock.IsAlone world node) :
    ∃ after, world.run lock.readNode = (.ok node, after) ∧ world.Passes after 0 ∧
      after.clock = world.clock := by
  have found : world.connection.store.nodes.get? lock.node = some node := alone.found
  have served := World.serve_cluster alone.faults (.getNode lock.node)
  simp only [Store.serve, found] at served
  exact ⟨_, World.run_callOr served _, ⟨rfl, alone.faults.symm, rfl⟩, rfl⟩

theorem run_checkFree (lets : LetsIn format lock node world.clock) :
    ∃ after, world.run (lock.checkFree format node) = (.ok (), after) ∧ world.Passes after 0 ∧
      after.clock + World.clockStep = world.clock + attemptTime format lock node := by
  unfold checkFree attemptTime
  cases lets with
  | absent none =>
    simp only [none]
    exact ⟨world, rfl, .refl world, rfl⟩
  | unreadable value held unread =>
    simp only [held, unread, Option.bind_some]
    exact ⟨world, rfl, .refl world, rfl⟩
  | abandoned value age held reads old =>
    have stale : ¬ isFresh (age world.clock) = true := fun fresh => (isFresh_iff _).1 fresh old
    simp only [held, reads, Option.bind_some]
    refine ⟨(World.serve .now world).2, ?_, World.passes_now world, ?_⟩
    · rw [World.run_ask_bind]
      show World.run _ (if isFresh (age world.clock) = true then _ else _) = _
      rw [if_neg stale]
      rfl
    · show world.clock + World.clockStep + World.clockStep = world.clock + 2 * World.clockStep
      rw [Int.two_mul, Int.add_assoc]

theorem run_checkFree_held (shut : ¬ LetsIn format lock node world.clock) :
    ∃ since after, node.metadata.annotation? lock.key = some since ∧
      world.run (lock.checkFree format node) = (.error (.held lock.node since), after) ∧
      world.Passes after 0 := by
  unfold checkFree
  cases held : node.metadata.annotation? lock.key with
  | none => exact absurd (.absent held) shut
  | some since =>
    cases reads : format.age? since with
    | none => exact absurd (.unreadable since held reads) shut
    | some age =>
      have fresh : isFresh (age world.clock) = true := by
        rw [isFresh_iff]
        exact fun old => shut (.abandoned since age held reads old)
      refine ⟨since, (World.serve .now world).2, rfl, ?_, World.passes_now world⟩
      simp only [reads]
      rw [World.run_ask_bind]
      show World.run _ (if isFresh (age world.clock) = true then _ else _) = _
      rw [if_pos fresh]
      rfl

/-- All annotations are as before but for those of a lock, which has a value or is gone, and so is
everything that is no node. -/
structure SetsOnly (lock : NodeLock) (world after : World) (value : Option String) : Prop where
  annotation? : ∀ name key, after.annotation? name key =
    if name = lock.node ∧ key = lock.key then value else world.annotation? name key
  others : after.view = { world.view with nodes := after.view.nodes }

theorem SetsOnly.congr {middle : World} {value : Option String} (sets : SetsOnly lock middle after value)
    (same : middle.view = world.view) : SetsOnly lock world after value := by
  refine ⟨fun name key => ?_, by rw [← same]; exact sets.others⟩
  rw [sets.annotation?, World.annotation?, World.annotation?, same]

theorem IsAlone.setsOnly (alone : lock.IsAlone world node) {value : Option String} {version : String}
    (view : after.view = { world.view with
      nodes := world.view.nodes.insert lock.node
        ⟨node.metadata.patched (.one lock.key value) version⟩ }) :
    SetsOnly lock world after value := by
  refine ⟨fun name key => ?_, by rw [view]⟩
  rw [World.annotation?_written alone.found (by rw [view]), Patch.get?_one]
  by_cases here : name = lock.node
  · by_cases own : key = lock.key
    · simp [here, own]
    · simp [here, own]
  · simp [here]

theorem run_write?_conflict {resource : String} {value : Option String}
    (served : World.serve (.cluster (.patchNode lock.node (.one lock.key value)
      node.metadata.resourceVersion)) world = (.error (.conflict resource), after)) (attempt : Nat) :
    world.run (lock.write? attempt node value) =
      (.ok none, (World.serve (.sleep (retryDelay * attempt)) after).2) := by
  unfold write?
  dsimp only
  rw [World.run_ask_bind, served]
  rfl

-- A write that meets no conflict.
theorem IsAlone.writes (alone : lock.IsAlone world node) (clear : world.conflicts = 0)
    (attempt : Nat) (value : Option String) :
    ∃ changed after, world.run (lock.write? attempt node value) = (.ok (some ()), after) ∧
      lock.IsAlone after changed ∧ changed.metadata.annotation? lock.key = value ∧
      SetsOnly lock world after value := by
  have served := World.serve_cluster alone.faults
    (.patchNode lock.node (.one lock.key value) node.metadata.resourceVersion)
  rw [Store.serve, Store.patchNode_clear clear alone.found (guardHolds_self node.metadata)] at served
  refine ⟨⟨node.metadata.patched (.one lock.key value) world.connection.store.nextVersion⟩, _,
    run_write?_ok served attempt, ⟨rfl, ?_, rfl⟩, ?_, alone.setsOnly rfl⟩
  · exact (Dictionary.get?_insert ..).trans (if_pos rfl)
  · rw [annotation?_patched_one, if_pos rfl]

-- A write that meets a conflict, and the wait after it.
theorem IsAlone.conflicts (alone : lock.IsAlone world node) (due : 0 < world.conflicts)
    (attempt : Nat) (value : Option String) :
    ∃ after, world.run (lock.write? attempt node value) = (.ok none, after) ∧
      world.Passes after 1 ∧ after.clock = world.clock := by
  have served := World.serve_cluster alone.faults
    (.patchNode lock.node (.one lock.key value) node.metadata.resourceVersion)
  rw [Store.serve, Store.patchNode_conflict alone.versioned due] at served
  exact ⟨_, run_write?_conflict served attempt, ⟨rfl, alone.faults.symm, rfl⟩, rfl⟩

/-! ## Acquiring -/

-- An attempt that is let in, up to its write.
theorem IsAlone.run_attempt (alone : lock.IsAlone world node) (lets : LetsIn format lock node world.clock)
    (attempt : Nat) (attempts : List Nat) :
    ∃ stamp middle, world.Passes middle 0 ∧ lock.IsAlone middle node ∧
      middle.clock = world.clock + attemptTime format lock node ∧
      world.run (lock.acquireIn format (attempt :: attempts)) =
        middle.run (lock.write? attempt node (some stamp) >>= fun
          | some () => pure stamp
          | none => lock.acquireIn format attempts) := by
  obtain ⟨read, ran, passes, same⟩ := alone.run_readNode
  rw [← same] at lets ⊢
  obtain ⟨checked, free, more, time⟩ := run_checkFree lets
  have passes := (passes.trans more).trans (World.passes_now checked)
  refine ⟨format.write checked.clock, _, passes, alone.passes passes, time, ?_⟩
  rw [acquireIn, World.run_bind_ok ran, World.run_bind_ok free, World.run_ask_bind]
  rfl

/-- An acquire with some attempts left has taken the lock: every attempt up to the one without a conflict was let
in. -/
def HasTaken (format : StampFormat) (lock : NodeLock) (world : World) (node : Node) (attempts : List Nat) : Prop :=
  world.conflicts < attempts.length ∧
    (∀ met ≤ world.conflicts, LetsIn format lock node (lookAfter format lock node world met)) ∧
    ∃ stamp changed after, world.run (lock.acquireIn format attempts) = (.ok stamp, after) ∧
      lock.IsAlone after changed ∧ changed.metadata.annotation? lock.key = some stamp ∧
      SetsOnly lock world after (some stamp)

def IsKeptOut (format : StampFormat) (lock : NodeLock) (world : World) (node : Node) (attempts : List Nat) :
    Prop :=
  (∃ met < attempts.length, met ≤ world.conflicts ∧
      ¬ LetsIn format lock node (lookAfter format lock node world met)) ∧
    ∃ since after, node.metadata.annotation? lock.key = some since ∧
      world.run (lock.acquireIn format attempts) = (.error (.held lock.node since), after) ∧
      after.view = world.view

def GivesUp (format : StampFormat) (lock : NodeLock) (world : World) (node : Node) (attempts : List Nat) : Prop :=
  attempts.length ≤ world.conflicts ∧
    (∀ met < attempts.length, LetsIn format lock node (lookAfter format lock node world met)) ∧
    ∃ after, world.run (lock.acquireIn format attempts) = (.error (.contended lock.node 5), after) ∧
      after.view = world.view

-- Whoever is shut out fails at once.
theorem IsAlone.isKeptOut (alone : lock.IsAlone world node) (shut : ¬ LetsIn format lock node world.clock)
    (attempt : Nat) (attempts : List Nat) : IsKeptOut format lock world node (attempt :: attempts) := by
  refine ⟨⟨0, Nat.zero_lt_succ _, Nat.zero_le _, by rwa [lookAfter_zero]⟩, ?_⟩
  obtain ⟨read, ran, passes, same⟩ := alone.run_readNode
  rw [← same] at shut
  obtain ⟨since, after, carries, refused, more⟩ := run_checkFree_held shut
  refine ⟨since, after, carries, ?_, (passes.trans more).view⟩
  rw [acquireIn, World.run_bind_ok ran, World.run_bind_error refused]

-- An attempt that meets no conflict is the last one.
theorem IsAlone.hasTaken (alone : lock.IsAlone world node) (lets : LetsIn format lock node world.clock)
    (clear : world.conflicts = 0) (attempt : Nat) (attempts : List Nat) :
    HasTaken format lock world node (attempt :: attempts) := by
  obtain ⟨stamp, middle, passes, still, -, shape⟩ := alone.run_attempt lets attempt attempts
  have free : middle.conflicts = 0 := by rw [passes.conflicts, clear]
  obtain ⟨changed, after, wrote, later, held, sets⟩ := still.writes free attempt (some stamp)
  refine ⟨by rw [clear]; exact Nat.zero_lt_succ _, fun met least => ?_, stamp, changed, after, ?_, later, held,
    sets.congr passes.view⟩
  · obtain rfl : met = 0 := by omega
    rwa [lookAfter_zero]
  · rw [shape, World.run_bind_ok wrote]
    rfl

-- The first attempt decides or leads to the next one, which sees the clock later.
theorem IsAlone.acquireIn_cases (alone : lock.IsAlone world node) (format : StampFormat) (attempts : List Nat) :
    HasTaken format lock world node attempts ∨ IsKeptOut format lock world node attempts ∨
      GivesUp format lock world node attempts := by
  induction attempts generalizing world with
  | nil => exact .inr (.inr ⟨Nat.zero_le _, fun _ => nofun, world, rfl, rfl⟩)
  | cons attempt attempts ih =>
    by_cases lets : LetsIn format lock node world.clock
    case neg => exact .inr (.inl (alone.isKeptOut lets attempt attempts))
    cases due : world.conflicts with
    | zero => exact .inl (alone.hasTaken lets due attempt attempts)
    | succ left =>
      obtain ⟨stamp, middle, passes, still, time, shape⟩ := alone.run_attempt lets attempt attempts
      have conflict : 0 < middle.conflicts := by rw [passes.conflicts, due]; omega
      obtain ⟨again, refused, more, same⟩ := still.conflicts conflict attempt (some stamp)
      have passes := passes.trans more
      have fewer : again.conflicts = left := by rw [passes.conflicts, due]; rfl
      have goes : world.run (lock.acquireIn format (attempt :: attempts)) =
          again.run (lock.acquireIn format attempts) := by
        rw [shape, World.run_bind_ok refused]
      have looks {met : Nat} : lookAfter format lock node again met = lookAfter format lock node world (met + 1) :=
        lookAfter_succ (same.trans time)
      have first : LetsIn format lock node (lookAfter format lock node world 0) := by rwa [lookAfter_zero]
      unfold HasTaken IsKeptOut GivesUp at ih ⊢
      rw [goes, due, List.length_cons]
      rcases ih (alone.passes passes) with ⟨few, all, stamp, changed, after, ran, rest, held, sets⟩ |
        ⟨⟨met, within, least, shut⟩, since, after, carries, ran, view⟩ | ⟨many, all, after, ran, view⟩
      · refine .inl ⟨by omega, fun met least => ?_, stamp, changed, after, ran, rest, held,
          sets.congr passes.view⟩
        cases met with
        | zero => exact first
        | succ met => exact looks ▸ all met (by omega)
      · exact .inr (.inl ⟨⟨met + 1, by omega, by omega, looks ▸ shut⟩, since, after, carries, ran,
          view.trans passes.view⟩)
      · refine .inr (.inr ⟨by omega, fun met within => ?_, after, ran, view.trans passes.view⟩)
        cases met with
        | zero => exact first
        | succ met => exact looks ▸ all met (by omega)

/-- What comes of an acquire that is alone with a node: the stamp that the node then carries, or a failure that
changes nothing. -/
structure AcquiresAlone (format : StampFormat) (lock : NodeLock) (world : World) (node : Node)
    (outcome : Except NodeLockError String) (after : World) : Prop where
  succeeds_iff : (∃ stamp, outcome = .ok stamp) ↔ world.conflicts < 5 ∧
    ∀ met ≤ world.conflicts, LetsIn format lock node (lookAfter format lock node world met)
  -- A lock that gets no younger is looked at once.
  settled_at_once : GetsOlder format lock node →
    ((∃ stamp, outcome = .ok stamp) ↔ world.conflicts < 5 ∧ LetsIn format lock node world.clock)
  taken : ∀ stamp, outcome = .ok stamp → SetsOnly lock world after (some stamp)
  held : ∀ met < 5, met ≤ world.conflicts → ¬ LetsIn format lock node (lookAfter format lock node world met) →
    ∃ since, node.metadata.annotation? lock.key = some since ∧ outcome = .error (.held lock.node since)
  contended : (∀ met < 5, LetsIn format lock node (lookAfter format lock node world met)) →
    5 ≤ world.conflicts → outcome = .error (.contended lock.node 5)
  unchanged : ∀ error, outcome = .error error → after.view = world.view

theorem letsIn_at_once (older : GetsOlder format lock node) :
    (∀ met ≤ world.conflicts, LetsIn format lock node (lookAfter format lock node world met)) ↔
      LetsIn format lock node world.clock := by
  constructor
  · intro all
    rw [← lookAfter_zero format lock node world]
    exact all 0 (Nat.zero_le _)
  · exact fun lets met _ => lets.later older (le_lookAfter format lock node world met)

theorem IsAlone.acquires (alone : lock.IsAlone world node) (format : StampFormat) :
    AcquiresAlone format lock world node (world.run (lock.acquireWith format)).1
      (world.run (lock.acquireWith format)).2 := by
  unfold acquireWith
  obtain ⟨few, all, stamp, changed, after, ran, -, -, sets⟩ |
      ⟨⟨met, within, least, shut⟩, since, after, carries, ran, view⟩ | ⟨many, all, after, ran, view⟩ :=
    alone.acquireIn_cases format (attemptsFrom 1 maxAttempts)
  · rw [ran]
    exact {
      succeeds_iff := iff_of_true ⟨stamp, rfl⟩ ⟨few, all⟩
      settled_at_once := fun older => iff_of_true ⟨stamp, rfl⟩ ⟨few, (letsIn_at_once older).1 all⟩
      taken := by rintro _ ⟨⟩; exact sets
      held := fun met _ least shut => absurd (all met least) shut
      contended := fun _ many => absurd few (Nat.not_lt.2 many)
      unchanged := nofun }
  · rw [ran]
    exact {
      succeeds_iff := iff_of_false nofun fun both => shut (both.2 met least)
      settled_at_once := fun older => iff_of_false nofun fun both =>
        shut ((letsIn_at_once older).2 both.2 met least)
      taken := nofun
      held := fun _ _ _ _ => ⟨since, carries, rfl⟩
      contended := fun free => absurd (free met within) shut
      unchanged := fun _ _ => view }
  · rw [ran]
    exact {
      succeeds_iff := iff_of_false nofun fun both => absurd both.1 (Nat.not_lt.2 many)
      settled_at_once := fun _ => iff_of_false nofun fun both => absurd both.1 (Nat.not_lt.2 many)
      taken := nofun
      held := fun met within _ shut => absurd (all met within) shut
      contended := fun _ _ => rfl
      unchanged := fun _ _ => view }

/-! ## Releasing -/

section Releases

variable (alone : lock.IsAlone world node) (own : node.metadata.annotation? lock.key = some stamp)

include alone own

-- An attempt up to its write.
theorem IsAlone.run_release_attempt (attempt : Nat) (attempts : List Nat) :
    ∃ middle, world.Passes middle 0 ∧ lock.IsAlone middle node ∧
      world.run (lock.releaseIn stamp (attempt :: attempts)) =
        middle.run (lock.write? attempt node none >>= fun
          | some () => pure ()
          | none => lock.releaseIn stamp attempts) := by
  obtain ⟨read, ran, passes, -⟩ := alone.run_readNode
  refine ⟨read, passes, alone.passes passes, ?_⟩
  rewrite [releaseIn, World.run_bind_ok ran, if_pos own]
  rfl

-- Each conflict uses up an attempt, and the first attempt without one is the last.
theorem IsAlone.releaseIn_cases (attempts : List Nat) :
    (world.conflicts < attempts.length ∧ ∃ after,
        world.run (lock.releaseIn stamp attempts) = (.ok (), after) ∧ SetsOnly lock world after none) ∨
      attempts.length ≤ world.conflicts ∧ ∃ after,
        world.run (lock.releaseIn stamp attempts) = (.error (.contended lock.node 5), after) ∧
        after.view = world.view := by
  induction attempts generalizing world with
  | nil => exact .inr ⟨Nat.zero_le _, world, rfl, rfl⟩
  | cons attempt attempts ih =>
    obtain ⟨middle, passes, still, shape⟩ := alone.run_release_attempt own attempt attempts
    rw [shape, List.length_cons]
    cases due : world.conflicts with
    | zero =>
      obtain ⟨changed, after, wrote, -, -, sets⟩ :=
        still.writes (by rw [passes.conflicts, due]) attempt none
      rw [World.run_bind_ok wrote]
      exact .inl ⟨Nat.zero_lt_succ _, after, rfl, sets.congr passes.view⟩
    | succ left =>
      have conflict : 0 < middle.conflicts := by rw [passes.conflicts, due]; omega
      obtain ⟨again, refused, more, -⟩ := still.conflicts conflict attempt none
      have passes := passes.trans more
      have fewer : again.conflicts = left := by rw [passes.conflicts, due]; rfl
      rw [World.run_bind_ok refused]
      obtain ⟨few, after, ran, sets⟩ | ⟨many, after, ran, view⟩ := ih (alone.passes passes)
      · exact .inl ⟨by omega, after, ran, sets.congr passes.view⟩
      · exact .inr ⟨by omega, after, ran, view.trans passes.view⟩

end Releases

-- A lock that is gone, or another's, is left as it is.
theorem IsAlone.run_release_foreign (alone : lock.IsAlone world node)
    (foreign : node.metadata.annotation? lock.key ≠ some stamp) :
    ∃ after, world.run (lock.release stamp) = (.ok (), after) ∧ after.view = world.view := by
  obtain ⟨read, ran, passes, -⟩ := alone.run_readNode
  refine ⟨read, ?_, passes.view⟩
  show world.run (lock.releaseIn stamp (1 :: attemptsFrom 2 4)) = _
  rw [releaseIn, World.run_bind_ok ran, if_neg foreign]
  rfl

structure ReleasesAlone (lock : NodeLock) (world : World) (node : Node) (stamp : String)
    (outcome : Except NodeLockError Unit) (after : World) : Prop where
  foreign : node.metadata.annotation? lock.key ≠ some stamp →
    outcome = .ok () ∧ after.view = world.view
  dropped : node.metadata.annotation? lock.key = some stamp → world.conflicts < 5 →
    outcome = .ok () ∧ SetsOnly lock world after none
  contended : node.metadata.annotation? lock.key = some stamp → 5 ≤ world.conflicts →
    outcome = .error (.contended lock.node 5) ∧ after.view = world.view

theorem IsAlone.releases (alone : lock.IsAlone world node) (stamp : String) :
    ReleasesAlone lock world node stamp (world.run (lock.release stamp)).1
      (world.run (lock.release stamp)).2 := by
  by_cases own : node.metadata.annotation? lock.key = some stamp
  · have cases := alone.releaseIn_cases own (attemptsFrom 1 maxAttempts)
    obtain ⟨few, after, ran, sets⟩ | ⟨many, after, ran, view⟩ := cases
    · rw [release, ran]
      exact ⟨absurd own, fun _ _ => ⟨rfl, sets⟩, fun _ many => absurd few (Nat.not_lt.2 many)⟩
    · rw [release, ran]
      exact ⟨absurd own, fun _ few => absurd few (Nat.not_lt.2 many), fun _ _ => ⟨rfl, view⟩⟩
  · obtain ⟨after, ran, view⟩ := alone.run_release_foreign own
    rw [ran]
    exact ⟨fun _ => ⟨rfl, view⟩, fun held => absurd held own, fun held => absurd held own⟩

/-! ## One after the other -/

theorem SetsOnly.again {middle : World} {value other : Option String}
    (first : SetsOnly lock world middle value) (second : SetsOnly lock middle after other) :
    SetsOnly lock world after other := by
  refine ⟨fun name key => ?_, ?_⟩
  · rw [second.annotation?, first.annotation?]
    split
    · rfl
    · rfl
  · rw [second.others, first.others]

/-- A lock whose operations are alone with its node is acquired if it is free or old and fewer than five
writes meet a conflict, and is released if it carries the stamp and fewer than five writes meet one. That holds
in whatever way times are written and read. Nothing but the lock is ever changed, so an acquire and a release of
its stamp leave the annotations as they were, without the lock. -/
theorem works_alone (format : StampFormat) (alone : lock.IsAlone world node) :
    AcquiresAlone format lock world node (world.run (lock.acquireWith format)).1
        (world.run (lock.acquireWith format)).2 ∧
      (∀ stamp, ReleasesAlone lock world node stamp (world.run (lock.release stamp)).1
        (world.run (lock.release stamp)).2) ∧
      ∀ stamp middle, world.run (lock.acquireWith format) = (.ok stamp, middle) → ∀ conflicts < 5,
        ∃ after, (middle.meeting conflicts).run (lock.release stamp) = (.ok (), after) ∧
          SetsOnly lock world after none := by
  refine ⟨alone.acquires format, alone.releases, fun stamp middle took conflicts few => ?_⟩
  unfold acquireWith at took
  obtain ⟨-, -, again, changed, after, ran, still, held, sets⟩ | ⟨-, since, after, -, ran, -⟩ |
      ⟨-, -, after, ran, -⟩ :=
    alone.acquireIn_cases format (attemptsFrom 1 maxAttempts)
  · rw [took] at ran
    cases ran
    have waiting : lock.IsAlone (middle.meeting conflicts) changed :=
      ⟨still.faults, still.found, still.versioned⟩
    obtain ⟨-, after, released, freed⟩ | ⟨many, -⟩ :=
      waiting.releaseIn_cases held (attemptsFrom 1 maxAttempts)
    · exact ⟨after, released, sets.again (freed.congr rfl)⟩
    · exact absurd few (Nat.not_lt.2 many)
  · rw [took] at ran
    cases ran
  · rw [took] at ran
    cases ran

def longLocked : Node :=
  ⟨⟨none, some "node-a", none, some "7", some (.ofList
    [("zone", "b"), ("volcano.sh/vgpu-mutex.lock", "1970-01-01T00:00:00+00:00")])⟩⟩

/-- Five minutes later to the nanosecond, with as many conflicts as an acquire can meet. -/
def fiveMinutesLater : World where
  connection := { store := {
    nodes := Dictionary.empty.insert "node-a" longLocked
    nodeConflicts := 4 } }
  clock := 5 * 60 * nanosPerSecond

theorem works_alone_at_takeover :
    IsAlone (.ofDomain "node-a" "vgpu") fiveMinutesLater longLocked ∧
      ∃ stamp middle after, fiveMinutesLater.run (ofDomain "node-a" "vgpu").acquire = (.ok stamp, middle) ∧
        (middle.meeting 4).run ((ofDomain "node-a" "vgpu").release stamp) = (.ok (), after) ∧
        SetsOnly (.ofDomain "node-a" "vgpu") fiveMinutesLater after none := by
  have alone : IsAlone (.ofDomain "node-a" "vgpu") fiveMinutesLater longLocked :=
    ⟨rfl, by decide +kernel, rfl⟩
  obtain ⟨acquires, -, both⟩ := works_alone .rfc3339 alone
  have age := @age?_rfc3339 "1970-01-01T00:00:00+00:00" 0 (by decide +kernel)
  have old : LetsIn .rfc3339 (.ofDomain "node-a" "vgpu") longLocked fiveMinutesLater.clock :=
    .abandoned "1970-01-01T00:00:00+00:00" _ (by decide +kernel) age (by decide)
  obtain ⟨stamp, took⟩ :=
    (acquires.settled_at_once (getsOlder_rfc3339 _ _)).2 ⟨by decide, old⟩
  obtain ⟨after, released, sets⟩ := both stamp _ (Prod.ext took rfl) 4 (by decide)
  exact ⟨alone, stamp, _, after, Prod.ext took rfl, released, sets⟩

end GpuShare.Agent.NodeLock
