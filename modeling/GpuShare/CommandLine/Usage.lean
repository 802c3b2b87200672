import GpuShare.CommandLine.Command

/-!
What the program says when words make no command: how it is used, or what is wrong with the words.
-/

set_option autoImplicit false

namespace GpuShare.CommandLine

def program : String := "vgpu-manager"

def grammars : List (String × Grammar) :=
  [("monitor", monitorGrammar), ("register", registerGrammar), ("allocate", allocateGrammar),
    ("show-shm", showGrammar)]

def variableNames : List String :=
  (grammars.flatMap fun entry => entry.2.options.filterMap (·.standIn)).eraseDups

def Argument.usage (argument : Argument) : String :=
  match argument.shape with
  | .switch => "[--" ++ argument.name ++ "]"
  | _ => "[--" ++ argument.name ++ " <" ++ argument.name ++ ">]"

def Grammar.usage (grammar : Grammar) (command : String) : String :=
  " ".intercalate (program :: command :: grammar.options.map Argument.usage ++
    grammar.places.map fun place => "<" ++ place.name ++ ">")

def usage : List String := grammars.map fun entry => entry.2.usage entry.1

namespace UsageError

def message : UsageError → String
  | help | version | noCommand => ""
  | unknownCommand => "there is no such command"
  | missingArgument => "an argument is missing"
  | unknownArgument => "there is no such argument"
  | badValue => "a value is missing or not allowed"
  | failedValidation => "a value is no number in range"
  | repeated => "an argument is given twice"
  | unneededValue => "a switch takes no value"

def report (error : UsageError) : List String :=
  match error with
  | help | noCommand => usage
  | version => [program]
  | error => ("error: " ++ error.message) :: usage

/-- The exit code of the program; asking for help or for the version is no failure. -/
def exitCode : UsageError → Nat
  | help | version => 0
  | _ => 2

end UsageError

end GpuShare.CommandLine
