import GpuShare.Agent.Surroundings

/-!
The regions of the containers on a node. Every container with shares of devices has a directory, named
for its pod and itself, and in it a file that holds its region. The lister maps these files, keeps a
mapping as long as there is a file at its path, and clears away the directories of pods that are gone.
-/

set_option autoImplicit false

namespace GpuShare

open Text

inductive ListerError where
  | readDirectory (path : String)
  -- The header of a region does not fit the layout, for a reason.
  | layout (path reason : String)
  deriving Repr, DecidableEq

namespace ListerError

def code : ListerError → String
  | readDirectory .. => "ReadDir"
  | layout .. => "Layout"

def message : ListerError → String
  | readDirectory path => "failed to read directory " ++ path
  | layout path _ => "shared region " ++ path ++ " violates the layout"

def notes : ListerError → List String
  | layout _ reason => [reason]
  | _ => []

instance : Explain ListerError where
  explain error := [⟨error.code, error.message, error.notes⟩]

end ListerError

namespace Agent

def regionExtension : String := "cache"

def ownerOf? (name : String) : Option (String × String) :=
  match splitFirst? '_' name.toList with
  | some (uid@(_ :: _), container@(_ :: _)) => some (String.ofList uid, String.ofList container)
  | _ => none

/-- A lister: where it looks, the node it is on, and whether it may ask the cluster which pods there
are. -/
structure Lister where
  directory : Path
  node : String
  asksCluster : Bool
  deriving Repr, DecidableEq

/-- Mapped regions by path, in path order, with the numbers of their contents. -/
abbrev Mapped := List (Path × Nat)

def insertPath (path : Path) : List Path → List Path
  | [] => [path]
  | other :: others =>
    if path.components = other.components then other :: others
    else if path.isBefore other then path :: other :: others
    else other :: insertPath path others

def Mapped.contains (mapped : Mapped) (path : Path) : Bool := mapped.any (·.1 == path)

def Mapped.insert (path : Path) (content : Nat) : Mapped → Mapped
  | [] => [(path, content)]
  | other :: others =>
    if path.isBefore other.1 then (path, content) :: other :: others
    else other :: Mapped.insert path content others

namespace Lister

def podUids (lister : Lister) (pods : List Cluster.Pod) : List String :=
  (pods.filter fun pod => pod.nodeName == some lister.node).filterMap (·.metadata.uid)

def livePods? (lister : Lister) : Program interface (Option (List String)) := do
  if lister.asksCluster then
    match ← Program.request (I := interface) (.cluster .listPods) with
    | .ok pods => return some (lister.podUids pods)
    | .error _ => return none
  else return none

def isDeparted (live : Option (List String)) (uid : String) : Bool :=
  live.any fun uids => !uids.contains uid

def isRegionName (name : String) : Bool := Path.extension? name == some regionExtension

/-- The region files in the directory of a container; one that cannot be read has none. -/
def regionFiles (directory : Path) : Program interface (List Path) := do
  match ← Program.request (I := interface) (.readDirectory directory) with
  | .ok names => return (names.filter isRegionName).map directory.join
  | .error _ => return []

/-- Looks at one entry of the lister's directory: the region files in it. A directory whose pod is gone
is removed, as far as that can be done. -/
def visit (lister : Lister) (live : Option (List String)) (name : String) :
    Program interface (List Path) := do
  let directory := lister.directory.join name
  if ← Program.request (I := interface) (.isDirectory directory) then
    match ownerOf? name with
    | none => return []
    | some (uid, _) =>
      if isDeparted live uid then
        let _ ← Program.request (I := interface) (.removeTree directory)
        return []
      else regionFiles directory
  else return []

def scan (lister : Lister) (live : Option (List String)) :
    List String → Program interface (List Path)
  | [] => return []
  | name :: names => do
    let files ← lister.visit live name
    return files.foldr insertPath (← lister.scan live names)

/-- Maps the files that are not mapped yet, in path order. A header that does not fit ends that; other
files that cannot be mapped are left for another time. -/
def mapNew : List Path → Mapped → Program interface (Except ListerError Unit × Mapped)
  | [], mapped => return (.ok (), mapped)
  | path :: paths, mapped =>
    if mapped.contains path then mapNew paths mapped
    else do
      match ← Program.request (I := interface) (.mapRegion path) with
      | .ok content => mapNew paths (mapped.insert path content)
      | .error (.layoutViolation reason) => return (.error (.layout path.text reason), mapped)
      | .error _ => mapNew paths mapped

/-- Looks at the directory of a lister again: the regions that are mapped afterwards, also if a failure
comes in between. Without a directory there are none. -/
def update (lister : Lister) (mapped : Mapped) :
    Program interface (Except ListerError Unit × Mapped) := do
  if ← Program.request (I := interface) (.pathExists lister.directory) then
    let live ← lister.livePods?
    match ← Program.request (I := interface) (.readDirectory lister.directory) with
    | .error _ => return (.error (.readDirectory lister.directory.text), mapped)
    | .ok names =>
      let found ← lister.scan live names
      mapNew found (mapped.filter fun entry => found.contains entry.1)
  else return (.ok (), [])

end Lister

end Agent

end GpuShare
