import GpuShare.Text.Split

/-!
Paths of files. A path is its text; its components are what the slashes separate. Paths are ordered
component by component, so a directory comes before everything in it.
-/

set_option autoImplicit false

namespace GpuShare

open Text

structure Path where
  text : String
  deriving Repr, DecidableEq, Inhabited

namespace Path

def isAbsolute (path : Path) : Bool := path.text.toList.head? == some '/'

/-- The names along a path; empty names and single dots lead nowhere. -/
def components (path : Path) : List String :=
  ((splitOn '/' path.text.toList).map String.ofList).filter fun name => name ≠ "" ∧ name ≠ "."

/-- A name or path below a directory; an absolute path stands for itself. -/
def join (base : Path) (name : String) : Path :=
  if isAbsolute ⟨name⟩ ∨ base.text = "" then ⟨name⟩
  else if base.text.toList.getLast? = some '/' then ⟨base.text ++ name⟩
  else ⟨base.text ++ "/" ++ name⟩

def name? (path : Path) : Option String := path.components.getLast?.filter (· ≠ "..")

def parent (path : Path) : Path :=
  ⟨(if path.isAbsolute then "/" else "") ++ "/".intercalate path.components.dropLast⟩

def before : List String → List String → Bool
  | [], [] => false
  | [], _ :: _ => true
  | _ :: _, [] => false
  | a :: as, b :: bs => if a = b then before as bs else a < b

def isBefore (a b : Path) : Bool := before a.components b.components

/-- What follows the last dot of a file name, if something precedes it. -/
def extension? (name : String) : Option String :=
  match splitLast? '.' name.toList with
  | some (_ :: _, extension) => some (String.ofList extension)
  | _ => none

end Path

end GpuShare
