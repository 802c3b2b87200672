import GpuShare.Text.Split
import GpuShare.Text.Decimal

/-!
Which log lines are written. A filter is a list of directives between commas: a level for everything, or
for the targets that start with a name. The directive with the longest name that fits a target decides;
a later one replaces an earlier one with its name. Directives that do not read are passed over, and
without any the level is `info`.
-/

set_option autoImplicit false

namespace GpuShare.Log

open Text

inductive Level where
  | off
  | error
  | warn
  | info
  | debug
  | trace
  deriving Repr, DecidableEq

namespace Level

def all : List Level := [off, error, warn, info, debug, trace]

def text : Level → String
  | off => "off"
  | error => "error"
  | warn => "warn"
  | info => "info"
  | debug => "debug"
  | trace => "trace"

def rank (level : Level) : Nat := all.idxOf level

/-- Reads a level: its name in any case, or its place in the order as one digit. -/
def read? (text : List Char) : Option Level :=
  match text with
  | [c] => (digitValue? c).bind fun place => all[place]?
  | _ => all.find? fun level => level.text.toList == text.map Char.toLower

end Level

/-- A level for the targets that start with a name, or for all. A directive about spans has no effect
outside of them. -/
structure Directive where
  target : Option (List Char)
  ofSpan : Bool
  level : Level
  deriving Repr, DecidableEq

def isTargetChar (c : Char) : Bool := c.isAlphanum || c == '_' || c == ':' || c == '-' || 127 < c.toNat

def splitSpan? (cs : List Char) : Option (List Char × Bool) :=
  match splitFirst? '[' cs with
  | none => some (cs, false)
  | some (front, rest) =>
    match splitFirst? ']' rest with
    | some (_, []) => some (front, true)
    | _ => none

def readTarget? (cs : List Char) : Option (Option (List Char) × Bool) := do
  let (name, ofSpan) ← splitSpan? cs
  if name.all isTargetChar ∧ (ofSpan ∨ !name.isEmpty) then
    some (if name.isEmpty ∨ (Level.read? name).isSome then none else some name, ofSpan)
  else none

/-- Reads a directive. A name without a level stands for all levels. -/
def Directive.read? (cs : List Char) : Option Directive :=
  match Level.read? cs with
  | some level => some ⟨none, false, level⟩
  | none => do
    let (front, level) ← match splitLast? '=' cs with
      | none => some (cs, Level.trace)
      | some (front, []) => some (front, .trace)
      | some (front, level) => (Level.read? level).map (front, ·)
    let (target, ofSpan) ← readTarget? front
    return ⟨target, ofSpan, level⟩

abbrev Filter := List Directive

def Filter.default : Filter := [⟨none, false, .info⟩]

def Filter.read (text : String) : Filter :=
  match (splitOn ',' text.toList).filterMap fun cs => if cs.isEmpty then none else Directive.read? cs with
  | [] => .default
  | directives => directives

def Directive.fits (target : List Char) (directive : Directive) : Bool :=
  !directive.ofSpan && directive.target.all fun name => (stripStart? name target).isSome

/-- Bytes of the name of a directive, one more than that for a directive with a name. -/
def Directive.weight (directive : Directive) : Nat :=
  match directive.target with
  | none => 0
  | some name => (String.ofList name).utf8ByteSize + 1

/-- The directive that decides of two that fit, the first of which comes earlier. -/
def decisive (first second : Directive) : Directive :=
  if second.weight < first.weight then first else second

def Filter.allows (filter : Filter) (target : String) (level : Level) : Bool :=
  match filter.filter (·.fits target.toList) with
  | [] => false
  | first :: others => level.rank ≤ (others.foldl decisive first).level.rank

end GpuShare.Log
