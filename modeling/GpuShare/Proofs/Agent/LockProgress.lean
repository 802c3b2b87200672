import GpuShare.Proofs.Agent.LockSharing

/-!
A shared lock that is free, or abandoned, goes to a manager that asks for it while nobody else writes
the node.
-/

set_option autoImplicit false

namespace GpuShare.Agent.NodeLock

open Cluster Time

theorem run_ask_bind {ε α : Type} (request : Request) (next : Answer request → Action ε α) :
    (ask request >>= next).run = .ask request fun answer => (next answer).run := rfl

/-- The rest of an attempt to acquire, after the lock on a node was found free. -/
def take (lock : NodeLock) (attempt : Nat) (attempts : List Nat) (node : Node) :
    Action NodeLockError String := do
  let stamp := Instant.toRfc3339 (← ask .now)
  match ← lock.write? attempt node (some stamp) with
  | some () => return stamp
  | none => lock.acquireIn .rfc3339 attempts

theorem acquireIn_run (lock : NodeLock) (attempt : Nat) (attempts : List Nat) :
    (lock.acquireIn .rfc3339 (attempt :: attempts)).run =
      .ask (.cluster (.getNode lock.node)) fun
        | .ok node => (lock.checkFree .rfc3339 node >>= fun _ => lock.take attempt attempts node).run
        | .error error => .done (.error (.update lock.node error)) := by
  show Program.ask _ _ = _
  congr 1
  funext answer
  cases answer with
  | ok node => rfl
  | error error => rfl

variable {ι : Type} [DecidableEq ι]

@[simp] theorem setManager_setManager (scene : Scene ι) (i : ι) (first second : Manager) :
    (scene.setManager i first).setManager i second = scene.setManager i second := by
  simp [Scene.setManager]

@[simp] theorem managers_setManager_self (scene : Scene ι) (i : ι) (manager : Manager) :
    (scene.setManager i manager).managers i = manager := Function.update_self ..

theorem managers_setManager_ne (scene : Scene ι) {i j : ι} (manager : Manager) (other : j ≠ i) :
    (scene.setManager i manager).managers j = scene.managers j := Function.update_of_ne other ..

def Scene.taken (lock : NodeLock) (scene : Scene ι) (i : ι) (version : String) : Scene ι :=
  (scene.write ⟨scene.node.metadata.patched (.one lock.key (some scene.clock.toRfc3339)) version⟩
    version).setManager i ⟨scene.clock.toRfc3339 :: (scene.managers i).owed, .idle⟩

variable {lock : NodeLock} {trace : List (Transition (Scene ι) ι)} {start scene after : Scene ι} {i : ι}

-- Answers are about the node and the clock alone.
theorem Reply.setManager {request : Request} {answer : Answer request}
    (reply : Reply lock scene request answer after) (i : ι) (manager : Manager) :
    Reply lock (scene.setManager i manager) request answer (after.setManager i manager) := by
  cases reply with
  | read => exact .read
  | written patch guard version holds unused => exact .written patch guard version holds unused
  | failed call error => exact .failed call error
  | now => exact .now
  | slept milliseconds => exact .slept milliseconds

theorem answered {manager : Manager} {request : Request} {answer : Answer request}
    {next : Answer request → Program interface (Except NodeLockError String)}
    (run : Run (Step lock) start trace (scene.setManager i (manager.acquire (.ask request next))))
    (reply : Reply lock scene request answer after) :
    Run (Step lock) start (⟨scene.setManager i (manager.acquire (.ask request next)), some i,
      after.setManager i (manager.acquire (next answer))⟩ :: trace)
      (after.setManager i (manager.acquire (next answer))) := by
  have busy : ((scene.setManager i (manager.acquire (.ask request next))).managers i).activity =
      .acquiring (.ask request next) := by
    rw [managers_setManager_self]
    rfl
  have step := Step.acquire i request next answer _ busy (reply.setManager i _)
  rw [setManager_setManager, managers_setManager_self] at step
  exact run.step step

/-- What comes of an acquire in one go: the calls it took, at the time it began, and what it
returned. -/
def Takes (lock : NodeLock) (start : Scene ι) (trace : List (Transition (Scene ι) ι)) (scene : Scene ι) (i : ι)
    (version : String) : Prop :=
  ∃ before calls, Run (Step lock) start (⟨before, some i, scene.taken lock i version⟩ :: (calls ++ trace))
      (scene.taken lock i version) ∧
    (∀ j, (before.managers j).owed = (scene.managers j).owed) ∧ before.clock = scene.clock ∧
    ∀ call ∈ calls, call.before.clock = scene.clock

-- A manager that found the lock free writes it and returns.
theorem written {version : String} {attempt : Nat} {attempts : List Nat}
    (calls : List (Transition (Scene ι) ι))
    (run : Run (Step lock) start (calls ++ trace)
      (scene.setManager i ((scene.managers i).acquire (lock.take attempt attempts scene.node).run)))
    (same : ∀ call ∈ calls, call.before.clock = scene.clock) (unused : version ∉ scene.versions) :
    Takes lock start trace scene i version := by
  have holds : Store.guardHolds scene.node.metadata scene.node.metadata.resourceVersion := by
    cases has : scene.node.metadata.resourceVersion with
    | none => rfl
    | some version => simp [Store.guardHolds, has]
  have run := answered (answered run .now) (.written _ _ version holds unused)
  refine ⟨_, _ :: calls, run, fun j => ?_, rfl, ?_⟩
  · by_cases here : j = i
    · subst here
      rw [managers_setManager_self]
      rfl
    · rw [managers_setManager_ne _ _ here]
  · rintro call (_ | ⟨_, member⟩)
    · rfl
    · exact same call member

-- A free lock is passed at once, an abandoned one after a look at the clock.
theorem checkFree_cases {node : Node} {clock : Instant}
    (free : ∀ since taken, node.metadata.annotation? lock.key = some since →
      Instant.ofRfc3339? since = some taken → staleAge ≤ clock - taken) :
    lock.checkFree .rfc3339 node = pure () ∨ ∃ taken error, ¬ isFresh (clock - taken) = true ∧
      lock.checkFree .rfc3339 node = ask .now >>= fun now =>
        if isFresh (now - taken) then throw error else pure () := by
  rw [checkFree_rfc3339]
  split
  · exact .inl rfl
  · next since held =>
    split
    · exact .inl rfl
    · next taken reads =>
      refine .inr ⟨taken, .held lock.node since, ?_, rfl⟩
      have old := free since taken held reads
      simpa [isFresh] using old

-- A manager that nobody gets ahead of takes a lock that is free or abandoned.
theorem takes (run : Run (Step lock) start trace scene) (i : ι) (version : String)
    (idle : (scene.managers i).activity = .idle) (unused : version ∉ scene.versions)
    (free : ∀ since taken, scene.value lock = some since → Instant.ofRfc3339? since = some taken →
      staleAge ≤ scene.clock - taken) :
    Takes lock start trace scene i version := by
  have shape : lock.acquire.run = _ := lock.acquireIn_run 1 (attemptsFrom 2 4)
  have run := run.step (.toAcquire i idle)
  rw [shape] at run
  have run := answered run .read
  dsimp only at run
  rcases checkFree_cases free with passed | ⟨taken, error, stale, looks⟩
  · rw [passed, pure_bind] at run
    refine written [_, _] run ?_ unused
    simp [Scene.setManager]
  · rw [looks, bind_assoc, run_ask_bind] at run
    have run := answered run .now
    rw [if_neg stale, pure_bind] at run
    refine written [_, _, _] run ?_ unused
    simp [Scene.setManager]

end GpuShare.Agent.NodeLock
