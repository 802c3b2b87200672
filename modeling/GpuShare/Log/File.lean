import GpuShare.Text.Utf8
import GpuShare.File.Disk
import GpuShare.Log.Filter

/-!
Log lines. A line that the filter lets through goes to the error output, and a copy of it to a file if
there is one. The file is named for the wanted path and the day.
-/

set_option autoImplicit false

namespace GpuShare.Log

open Text

def filterVariable : String := "RUST_LOG"

def pathVariable : String := "VGPU_LOG_PATH"

def defaultName : String := "vgpu-manager.log"

def fileFor (wanted : Path) (day : String) : Path :=
  wanted.parent.join (wanted.name?.getD defaultName ++ "." ++ day)

def openAtEnd (disk : Disk) (path : Path) : Except FileError Nat × Disk :=
  match disk.content? path with
  | .error .notFound =>
    match disk.writeFile path .empty with
    | (.ok (), disk) => (disk.content? path, disk)
    | (.error error, disk) => (.error error, disk)
  | answer => (answer, disk)

def openFile (disk : Disk) (wanted : Path) (day : String) : Except FileError Nat × Disk :=
  let path := fileFor wanted day
  match openAtEnd disk path with
  | (.ok content, disk) => (.ok content, disk)
  | (.error _, disk) =>
    match disk.makeDirectories path.parent with
    | (.error error, disk) => (.error error, disk)
    | (.ok (), disk) => openAtEnd disk path

def line (level : Level) (message : String) : String :=
  String.ofList (level.text.toList.map Char.toUpper) ++ " " ++ message

def addLines (disk : Disk) (content : Nat) (lines : List String) : Disk :=
  let added := utf8Bytes (String.join (lines.map (· ++ "\n")))
  disk.setBytes content (disk.bytes content ++ ⟨added.toArray⟩)

def openFailure (wanted : Path) : String := "failed to open log file " ++ wanted.text

/-- Writes messages of one target and level: what goes to the error output, and the disk with the copy
in the file for the wanted path. -/
def write (disk : Disk) (filter : Filter) (wanted : Option Path) (day target : String)
    (level : Level) (messages : List String) : List String × Disk :=
  let lines := if filter.allows target level then messages.map (line level) else []
  match wanted with
  | none => (lines, disk)
  | some path =>
    match openFile disk path day with
    | (.ok content, disk) => (lines, addLines disk content lines)
    | (.error _, disk) => (openFailure path :: lines, disk)

end GpuShare.Log
