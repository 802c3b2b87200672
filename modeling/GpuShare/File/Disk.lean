import GpuShare.File.Path
import GpuShare.Region.Bytes

/-!
A file system in memory. Names lead to directories, symbolic links and contents; a content is reached
by its number, so that a mapping of it outlives its name. Mode bits are kept for directories.
-/

set_option autoImplicit false

namespace GpuShare

inductive FileError where
  | notFound
  | notDirectory
  | isDirectory
  | alreadyExists
  | linkLoop
  | nameTooLong
  deriving Repr, DecidableEq

def FileError.text : FileError → String
  | notFound => "No such file or directory (os error 2)"
  | notDirectory => "Not a directory (os error 20)"
  | isDirectory => "Is a directory (os error 21)"
  | alreadyExists => "File exists (os error 17)"
  | linkLoop => "Too many levels of symbolic links (os error 40)"
  | nameTooLong => "File name too long (os error 36)"

inductive Entry where
  | file (content : Nat)
  | directory (mode : Nat)
  | link (target : Path)
  deriving Repr, DecidableEq

abbrev Location := List String

/-- Entries by location, and the contents of files. The root itself has no entry. -/
structure Disk where
  entries : List (Location × Entry)
  contents : Array ByteArray

namespace Disk

def empty : Disk := ⟨[], #[]⟩

instance : Inhabited Disk := ⟨empty⟩

def maxName : Nat := 255

def maxLinks : Nat := 40

def entry? (disk : Disk) (location : Location) : Option Entry :=
  (disk.entries.find? (·.1 == location)).map (·.2)

def insertEntry (location : Location) (entry : Entry) :
    List (Location × Entry) → List (Location × Entry)
  | [] => [(location, entry)]
  | other :: others =>
    if location = other.1 then (location, entry) :: others
    else if Path.before location other.1 then (location, entry) :: other :: others
    else other :: insertEntry location entry others

def put (disk : Disk) (location : Location) (entry : Entry) : Disk :=
  { disk with entries := insertEntry location entry disk.entries }

/-- Walks along names: where they lead, and what is there. The last name may lead to nothing, and is
followed through links only if `follow` says so. -/
def walk (disk : Disk) (follow : Bool) :
    Nat → Nat → Location → List String → Except FileError (Location × Option Entry)
  | 0, _, _, _ => .error .linkLoop
  | _ + 1, _, here, [] => .ok (here, if here.isEmpty then some (.directory 0o755) else disk.entry? here)
  | fuel + 1, links, here, name :: rest =>
    if name = ".." then disk.walk follow fuel links here.dropLast rest
    else if maxName < name.utf8ByteSize then .error .nameTooLong
    else
      let next := here ++ [name]
      match disk.entry? next with
      | none => if rest.isEmpty then .ok (next, none) else .error .notFound
      | some (.directory _) => disk.walk follow fuel links next rest
      | some (.file content) =>
        if rest.isEmpty then .ok (next, some (.file content)) else .error .notDirectory
      | some (.link target) =>
        if rest.isEmpty ∧ !follow then .ok (next, some (.link target))
        else if links = 0 then .error .linkLoop
        else
          disk.walk follow fuel (links - 1) (if target.isAbsolute then [] else here)
            (target.components ++ rest)

/-- An upper bound on the names that a walk meets. -/
def walkFuel (disk : Disk) (path : Path) : Nat :=
  let longest := disk.entries.foldl
    (fun most entry => match entry.2 with
      | .link target => max most target.components.length
      | _ => most) 0
  path.components.length + (maxLinks + 1) * (longest + 1) + 1

def resolve (disk : Disk) (follow : Bool) (path : Path) :
    Except FileError (Location × Option Entry) :=
  disk.walk follow (disk.walkFuel path) maxLinks [] path.components

def pathExists (disk : Disk) (path : Path) : Bool :=
  match disk.resolve true path with
  | .ok (_, some _) => true
  | _ => false

def isDirectory (disk : Disk) (path : Path) : Bool :=
  match disk.resolve true path with
  | .ok (_, some (.directory _)) => true
  | _ => false

def namesBelow (disk : Disk) (location : Location) : List String :=
  disk.entries.filterMap fun entry =>
    if entry.1.dropLast = location then entry.1.getLast? else none

def readDirectory (disk : Disk) (path : Path) : Except FileError (List String) := do
  match ← disk.resolve true path with
  | (location, some (.directory _)) => .ok (disk.namesBelow location)
  | (_, some _) => .error .notDirectory
  | (_, none) => .error .notFound

def removeBelow (disk : Disk) (location : Location) : Disk :=
  { disk with entries := disk.entries.filter fun entry => !location.isPrefixOf entry.1 }

/-- Removes a directory with all in it; of a link only the link itself. -/
def removeTree (disk : Disk) (path : Path) : Except FileError Unit × Disk :=
  match disk.resolve false path with
  | .error error => (.error error, disk)
  | .ok (_, none) => (.error .notFound, disk)
  | .ok (_, some (.file _)) => (.error .notDirectory, disk)
  | .ok (location, some _) => (.ok (), disk.removeBelow location)

def remove (disk : Disk) (path : Path) : Disk :=
  match disk.resolve false path with
  | .ok (location, some _) => disk.removeBelow location
  | _ => disk

def defaultMode : Nat := 0o755

def makeDirectory (disk : Disk) (path : Path) : Except FileError Unit × Disk :=
  match disk.resolve false path with
  | .error error => (.error error, disk)
  | .ok (_, some _) => (.error .alreadyExists, disk)
  | .ok (location, none) => (.ok (), disk.put location (.directory defaultMode))

/-- The paths to the directories above a path and to itself, the outermost first. -/
def ancestors (path : Path) : List Path :=
  let start := if path.isAbsolute then "/" else ""
  (List.range path.components.length).map fun i =>
    ⟨start ++ "/".intercalate (path.components.take (i + 1))⟩

def makeDirectories (disk : Disk) (path : Path) : Except FileError Unit × Disk :=
  (ancestors path).foldl
    (fun state path =>
      match state with
      | (.error error, disk) => (.error error, disk)
      | (.ok (), disk) =>
        if disk.isDirectory path then (.ok (), disk) else disk.makeDirectory path)
    (.ok (), disk)

def setMode (disk : Disk) (path : Path) (mode : Nat) : Disk :=
  match disk.resolve true path with
  | .ok (location, some (.directory _)) => disk.put location (.directory mode)
  | _ => disk

def content? (disk : Disk) (path : Path) : Except FileError Nat := do
  match ← disk.resolve true path with
  | (_, some (.file content)) => .ok content
  | (_, some _) => .error .isDirectory
  | (_, none) => .error .notFound

def bytes (disk : Disk) (content : Nat) : ByteArray := disk.contents[content]?.getD .empty

def setBytes (disk : Disk) (content : Nat) (bytes : ByteArray) : Disk :=
  { disk with contents := disk.contents.setIfInBounds content bytes }

def readBytes (disk : Disk) (path : Path) : Except FileError ByteArray :=
  (disk.content? path).map disk.bytes

/-- Writes a file: an existing one keeps its content number, a new one gets a fresh one. -/
def writeFile (disk : Disk) (path : Path) (bytes : ByteArray) : Except FileError Unit × Disk :=
  match disk.resolve true path with
  | .error error => (.error error, disk)
  | .ok (_, some (.file content)) => (.ok (), disk.setBytes content bytes)
  | .ok (_, some _) => (.error .isDirectory, disk)
  | .ok (location, none) =>
    let disk := disk.put location (.file disk.contents.size)
    (.ok (), { disk with contents := disk.contents.push bytes })

def makeLink (disk : Disk) (path : Path) (target : Path) : Disk :=
  match disk.resolve false path with
  | .ok (location, none) => disk.put location (.link target)
  | _ => disk

def tree (disk : Disk) (location : Location) : List (Location × Entry) :=
  disk.entries.filter fun entry => location.isPrefixOf entry.1 && entry.1 != location

def relativeText (location below : Location) : String :=
  "/".intercalate (below.drop location.length)

def sortedTree (disk : Disk) (location : Location) : List (String × Entry) :=
  ((disk.tree location).map fun entry => (relativeText location entry.1, entry.2)).mergeSort
    fun a b => !(b.1 < a.1)

def addFile (disk : Disk) (path : Path) (bytes : ByteArray) : Disk :=
  ((disk.makeDirectories path.parent).2.writeFile path bytes).2

def overwrite (disk : Disk) (path : Path) (start : Nat) (written : List UInt8) : Disk :=
  match disk.content? path with
  | .ok content => disk.setBytes content (Region.overwrite (disk.bytes content) start written)
  | .error _ => disk

end Disk

end GpuShare
