import GpuShare.Text.Utf8
import GpuShare.Device.Tool
import GpuShare.Agent.Surroundings
import GpuShare.Mig.Document

/-!
The tool that partitions devices. It prints the partition in force as a document, and puts one in force
that it is given as a file.
-/

set_option autoImplicit false

namespace GpuShare.Mig.PartitionTool

open Text

def program : String := "nvidia-mig-parted"

def run (arguments : List String) : Attempt Tool.interface PartitionToolError (List UInt8) := do
  let line := Tool.commandLine program arguments
  match ← Tool.run program arguments with
  | none => throw (.command line)
  | some output =>
    if output.exitCode = 0 then return output.stdout
    else
      throw (.failed line ("exit status: " ++ decimal output.exitCode)
        (some (utf8Lossy output.stderr)))

def exportPartition : Attempt Tool.interface PartitionToolError Partition := do
  let printed ← run ["export"]
  match (utf8? printed).bind Partition.read? with
  | some partition => return partition
  | none => throw (.document none)

def applyPartition (path : Path) (partition : Partition) :
    Attempt Tool.interface PartitionToolError Unit := do
  if ← Tool.writeFile path partition.render then
    let _ ← run ["apply", "-f", path.text, "-c", currentConfig]
  else throw (.document (some path.text))

end GpuShare.Mig.PartitionTool
