/-!
Explained failures. A failure is a cause on top of the failures that led to it; `Explain` lists
these links, outermost first, for whoever shows or classifies them.
-/

set_option autoImplicit false

namespace GpuShare

/-- One link of an explained failure: the code of its cause, the text shown to people, and notes
attached to it. -/
structure Diagnostic where
  code : String
  message : String
  notes : List String := []
  deriving Repr, DecidableEq

class Explain (ε : Type) where
  explain : ε → List Diagnostic

export Explain (explain)

inductive Severity where
  | notFound
  | mismatch
  | transient
  | fatal
  deriving Repr, DecidableEq

def Severity.text : Severity → String
  | .notFound => "not found"
  | .mismatch => "mismatch"
  | .transient => "transient"
  | .fatal => "fatal"

def Diagnostic.line (chain : List Diagnostic) : String :=
  ": ".intercalate (chain.map (·.message))

end GpuShare
