import GpuShare.Feedback.Controller
import GpuShare.Agent.Lister
import GpuShare.Agent.World

/-!
The monitor: at every interval it looks for the regions of the containers and lets the controller tick
over them. A region whose header does not fit ends the monitor; a directory that cannot be read only
ends the round.
-/

set_option autoImplicit false

namespace GpuShare

inductive MonitorError where
  | listing (cause : ListerError)
  -- A region does not fit the layout; the cause, if the lister found it, or else the reason.
  | layout (path : String) (found : Except ListerError String)

namespace MonitorError

def code : MonitorError → String
  | listing _ => "Listing"
  | layout .. => "Layout"

def message : MonitorError → String
  | listing _ => "failed to list containers"
  | layout path _ => "shared region " ++ path ++ " violates the layout"

def severity : MonitorError → Severity
  | listing _ => .transient
  | layout .. => .fatal

instance : Explain MonitorError where
  explain error :=
    match error with
    | .listing cause | .layout _ (.error cause) => ⟨error.code, error.message, []⟩ :: explain cause
    | .layout _ (.ok reason) => [⟨error.code, error.message, [reason]⟩]

def ofLister : ListerError → MonitorError
  | cause@(.readDirectory _) => listing cause
  | cause@(.layout path _) => layout path (.error cause)

def stopLine (error : MonitorError) : String := "Feedback monitor stopped: " ++ error.message

end MonitorError

namespace Region

/-- A byte string as a region, extended by zeros if it is too short. -/
def view (bytes : ByteArray) : Region :=
  if fits : Layout.size ≤ bytes.size then ⟨bytes, fits⟩
  else ⟨zeros Layout.size, Nat.le_of_eq (size_zeros _).symm⟩

end Region

namespace Agent

def contentPlace (content : Nat) : Feedback.Place Disk Region where
  load disk := Region.view (disk.bytes content)
  store disk region := disk.setBytes content region.bytes

def firstViolation (disk : Disk) : Mapped → Option (String × String)
  | [] => none
  | (path, content) :: mapped =>
    match (Region.view (disk.bytes content)).validate with
    | .error (.layoutViolation reason) => some (path.text, reason)
    | _ => firstViolation disk mapped

/-- One tick of the controller over the mapped regions, if all of them fit the layout. -/
def tickMapped (mapped : Mapped) (disk : Disk) :
    Except MonitorError Feedback.TickReport × Disk :=
  match firstViolation disk mapped with
  | some (path, reason) => (.error (.layout path (.ok reason)), disk)
  | none =>
    let (report, disk) := Feedback.tickIn (mapped.map fun entry => contentPlace entry.2) disk
    (.ok report, disk)

structure Monitor where
  lister : Lister
  mapped : Mapped := []
  -- Milliseconds from one round to the next.
  interval : Nat := 5000
  -- When the next round is due.
  due : Nat := 0
  failure : Option MonitorError := none

namespace Monitor

def refresh (monitor : Monitor) (world : World) : Except MonitorError Unit × Monitor × World :=
  let ((outcome, mapped), world) :=
    (monitor.lister.update monitor.mapped).run (I := interface) World.serve world
  let outcome := match outcome with
    | .ok () => .ok ()
    | .error cause => .error (.ofLister cause)
  (outcome, { monitor with mapped := mapped }, world)

def tick (monitor : Monitor) (world : World) : Except MonitorError Feedback.TickReport × World :=
  let (outcome, disk) := tickMapped monitor.mapped world.disk
  (outcome, { world with disk := disk })

def round (monitor : Monitor) (world : World) : Option MonitorError × Monitor × World :=
  match monitor.refresh world with
  | (.error error, monitor, world) =>
    (if error.severity = .fatal then some error else none, monitor, world)
  | (.ok (), monitor, world) =>
    match monitor.tick world with
    | (.error error, world) => (some error, monitor, world)
    | (.ok _, world) => (none, monitor, world)

def runBefore (time : Nat) : Nat → Monitor → World → Monitor × World
  | 0, monitor, world => (monitor, world)
  | fuel + 1, monitor, world =>
    if monitor.failure.isNone ∧ monitor.due < time then
      let (failure, monitor, world) := monitor.round world
      runBefore time fuel
        { monitor with failure := failure, due := monitor.due + monitor.interval } world
    else (monitor, world)

def advance (monitor : Monitor) (time : Nat) (world : World) : Monitor × World :=
  runBefore time ((time - monitor.due) / max monitor.interval 1 + 1) monitor world

end Monitor

end Agent

end GpuShare
