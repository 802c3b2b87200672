import GpuShare.Agent.Surroundings

/-!
The lock on a node, kept in an annotation of the node. Its value is the time at which it was taken.
Writes are guarded, so of two agents that race for a free lock one wins; a holder removes the lock
only while it carries the value that this holder wrote. A lock older than five minutes is taken for
abandoned.
-/

set_option autoImplicit false

namespace GpuShare

open Text

inductive NodeLockError where
  | held (node since : String)
  -- Too many writes in a row met a conflict.
  | contended (node : String) (attempts : Nat)
  | update (node : String) (cause : ClusterError)
  deriving Repr, DecidableEq

namespace NodeLockError

def code : NodeLockError → String
  | held .. => "Held"
  | contended .. => "Contended"
  | update .. => "Update"

def message : NodeLockError → String
  | held node since => "node " ++ node ++ " is locked since " ++ since
  | contended node attempts =>
    "lock on node " ++ node ++ " still contended after " ++ decimal attempts ++ " attempts"
  | update node _ => "failed to update lock on node " ++ node

instance : Explain NodeLockError where
  explain error :=
    ⟨error.code, error.message, []⟩ ::
      match error with
      | .update _ cause => explain cause
      | _ => []

end NodeLockError

namespace Agent

/-- How times stand in locks. -/
structure StampFormat where
  write : Time.Instant → String
  -- The age that a text gives a lock at a time; none if it cannot be read.
  age? : String → Option (Time.Instant → Int)

def StampFormat.rfc3339 : StampFormat where
  write := Time.Instant.toRfc3339
  age? text := (Time.Instant.ofRfc3339? text).map fun taken now => now - taken

structure NodeLock where
  node : String
  key : String
  deriving Repr, DecidableEq

namespace NodeLock

def keyOf (domain : String) : String := "volcano.sh/" ++ domain ++ "-mutex.lock"

def deviceDomain : String := "vgpu"

def ofDomain (node domain : String) : NodeLock := ⟨node, keyOf domain⟩

def maxAttempts : Nat := 5

/-- Milliseconds waited after the first conflict; later waits grow with the attempt. -/
def retryDelay : Nat := 100

/-- Age in nanoseconds from which a lock is taken for abandoned. -/
def staleAge : Int := 300 * Time.nanosPerSecond

/-- Whether a lock of this age keeps others out. A time to come does. -/
def isFresh (age : Int) : Bool := age < staleAge

def attemptsFrom (attempt : Nat) : Nat → List Nat
  | 0 => []
  | n + 1 => attempt :: attemptsFrom (attempt + 1) n

def write? (lock : NodeLock) (attempt : Nat) (node : Cluster.Node) (value : Option String) :
    Action NodeLockError (Option Unit) := do
  let patch := Cluster.Patch.one lock.key value
  match ← ask (.cluster (.patchNode lock.node patch node.metadata.resourceVersion)) with
  | .ok _ => return some ()
  | .error error =>
    if error.isConflict then
      ask (.sleep (retryDelay * attempt))
      return none
    else throw (.update lock.node error)

def readNode (lock : NodeLock) : Action NodeLockError Cluster.Node :=
  callOr (.update lock.node) (.getNode lock.node)

def checkFree (lock : NodeLock) (format : StampFormat) (node : Cluster.Node) : Action NodeLockError Unit :=
  match node.metadata.annotation? lock.key with
  | none => pure ()
  | some since =>
    match format.age? since with
    | none => pure ()
    | some age => do
      if isFresh (age (← ask .now)) then throw (.held lock.node since)

theorem checkFree_rfc3339 (lock : NodeLock) (node : Cluster.Node) :
    lock.checkFree .rfc3339 node =
      match node.metadata.annotation? lock.key with
      | none => pure ()
      | some since =>
        match Time.Instant.ofRfc3339? since with
        | none => pure ()
        | some taken => ask .now >>= fun now =>
          if isFresh (now - taken) then throw (.held lock.node since) else pure () := by
  unfold checkFree StampFormat.rfc3339
  split
  · rfl
  · next since _ =>
    dsimp only
    cases Time.Instant.ofRfc3339? since with
    | none => rfl
    | some taken => rfl

def acquireIn (lock : NodeLock) (format : StampFormat) : List Nat → Action NodeLockError String
  | [] => throw (.contended lock.node maxAttempts)
  | attempt :: attempts => do
    let node ← lock.readNode
    lock.checkFree format node
    let stamp := format.write (← ask .now)
    match ← lock.write? attempt node (some stamp) with
    | some () => return stamp
    | none => lock.acquireIn format attempts

/-- Takes the lock: the value written, which giving it back needs. -/
def acquireWith (lock : NodeLock) (format : StampFormat) : Action NodeLockError String :=
  lock.acquireIn format (attemptsFrom 1 maxAttempts)

def acquire (lock : NodeLock) : Action NodeLockError String := lock.acquireWith .rfc3339

def releaseIn (lock : NodeLock) (stamp : String) : List Nat → Action NodeLockError Unit
  | [] => throw (.contended lock.node maxAttempts)
  | attempt :: attempts => do
    let node ← lock.readNode
    if node.metadata.annotation? lock.key = some stamp then
      match ← lock.write? attempt node none with
      | some () => return ()
      | none => lock.releaseIn stamp attempts
    else return ()

/-- Gives back the lock that was taken with a value. A node without the lock, or with another value
by now, is left alone. -/
def release (lock : NodeLock) (stamp : String) : Action NodeLockError Unit :=
  lock.releaseIn stamp (attemptsFrom 1 maxAttempts)

end NodeLock

end Agent

end GpuShare
