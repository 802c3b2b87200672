import GpuShare.Program
import GpuShare.Text.Utf8
import GpuShare.File.Disk

/-!
The tools of the node: programs that are run to the end, and the files written for them; and tools in
memory that stand in for them.
-/

set_option autoImplicit false

namespace GpuShare.Tool

structure Output where
  exitCode : Nat
  stdout : List UInt8
  stderr : List UInt8
  deriving Repr, DecidableEq

inductive Request where
  | run (program : String) (arguments : List String)
  | writeFile (path : Path) (text : String)
  deriving Repr, DecidableEq

/-- A program that cannot be started has no output; a write tells whether it succeeded. -/
abbrev Answer : Request → Type
  | .run .. => Option Output
  | .writeFile .. => Bool

abbrev interface : Interface := ⟨Request, Answer⟩

def run {ε : Type} (program : String) (arguments : List String) :
    Attempt interface ε (Option Output) :=
  Attempt.lift (.request (I := interface) (.run program arguments))

def writeFile {ε : Type} (path : Path) (text : String) : Attempt interface ε Bool :=
  Attempt.lift (.request (I := interface) (.writeFile path text))

def commandLine (program : String) (arguments : List String) : String :=
  program ++ " " ++ " ".intercalate arguments

/-- Tools in memory: a disk, and programs that always answer the same arguments alike. -/
structure Workshop where
  disk : Disk := .empty
  output : List String → Option Output
  -- The arguments of the programs that were run, in order.
  log : List (List String) := []

def Workshop.serve : (request : Request) → Workshop → Answer request × Workshop
  | .run _ arguments, workshop =>
    match workshop.output arguments with
    | none => (none, workshop)
    | some output => (some output, { workshop with log := workshop.log ++ [arguments] })
  | .writeFile path text, workshop =>
    match workshop.disk.writeFile path ⟨(Text.utf8Bytes text).toArray⟩ with
    | (.ok (), disk) => (true, { workshop with disk := disk })
    | (.error _, disk) => (false, { workshop with disk := disk })

def Workshop.run {ε α : Type} (workshop : Workshop) (attempt : Attempt interface ε α) :
    Except ε α × Workshop :=
  Program.run (I := interface) serve (ExceptT.run attempt) workshop

end GpuShare.Tool
