import Std.Time.DateTime.Timestamp
import GpuShare.CommandLine.Usage
import GpuShare.Log.File
import GpuShare.Region.Report
import GpuShare.Time.Rfc3339

/-!
The program. It reads the command line and shows the region that is asked for. The other commands map
memory and talk to a cluster, which takes surroundings that this program does not have; it says so.
-/

set_option autoImplicit false

namespace GpuShare.Main

open CommandLine

def readEnvironment : IO (String → Option String) := do
  let values ← variableNames.mapM fun name => return (name, ← IO.getEnv name)
  return fun name => (values.lookup name).join

def complain (lines : List String) : IO Unit := do
  let output ← IO.getStderr
  lines.forM fun text => output.putStrLn text

def openRegion (path : Path) : IO (Except RegionError Region) := do
  try return Region.ofBytes (← IO.FS.readBinFile path.text)
  catch
    | .noFileOrDirectory .. => return .error (.notFound path.text)
    | failure => return .error (.io path.text (toString failure))

def today : IO String := do
  let now ← Std.Time.Timestamp.now
  return Time.Instant.day (now.toSecondsSinceUnixEpoch.val * Time.nanosPerSecond)

def keep (wanted : Path) (lines : List String) : IO Unit := do
  let path := Log.fileFor wanted (← today)
  try
    let file ← try IO.FS.Handle.mk path.text .append
      catch _ =>
        IO.FS.createDirAll path.parent.text
        IO.FS.Handle.mk path.text .append
    lines.forM fun text => file.putStrLn text
  catch _ => complain [Log.openFailure wanted]

def log (target : String) (messages : List String) : IO Unit := do
  let filter := Log.Filter.read ((← IO.getEnv Log.filterVariable).getD "")
  let lines := if filter.allows target .info then messages.map (Log.line .info) else []
  complain lines
  match ← IO.getEnv Log.pathVariable with
  | none => return
  | some wanted => keep ⟨wanted⟩ lines

def showRegion (options : ShowOptions) : IO UInt32 := do
  let shown := Region.shown options.path (← openRegion options.path) options.processes
  log Region.showTarget shown.lines
  complain (shown.failure.toList.map ("Error: " ++ ·))
  return UInt32.ofNat shown.exitCode

def run : Command → IO UInt32
  | .showRegion options => showRegion options
  | .monitor _ | .register _ | .allocate _ => do
    complain ["Error: this command needs a node with devices and a cluster"]
    return 1

end GpuShare.Main

def main (words : List String) : IO UInt32 := do
  match GpuShare.CommandLine.read (← GpuShare.Main.readEnvironment) words with
  | .ok command => GpuShare.Main.run command
  | .error error =>
    if error.exitCode = 0 then error.report.forM IO.println
    else GpuShare.Main.complain error.report
    return UInt32.ofNat error.exitCode
