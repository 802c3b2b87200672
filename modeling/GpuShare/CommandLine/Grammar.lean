import GpuShare.Text.Split
import GpuShare.Text.Decimal

/-!
Words on a command line. A word is an option with its two dashes, a value of the option before it, or
a value in a place of its own; after a word of two dashes all words are values in places. An option
takes exactly one value, behind an equals sign or as the next word. A value that the next word completes
is looked at only when another argument follows, so a word that fits nowhere is reported before it.
-/

set_option autoImplicit false

namespace GpuShare.CommandLine

open Text

/-- Why words make no command. Asking for help is one of the reasons. -/
inductive UsageError where
  | help
  | version
  | noCommand
  | unknownCommand
  | missingArgument
  | unknownArgument
  -- A value is missing, or not among those allowed.
  | badValue
  -- A value does not read as a number.
  | failedValidation
  | repeated
  -- A switch is given a value.
  | unneededValue
  deriving Repr, DecidableEq

def UsageError.code : UsageError → String
  | help => "DisplayHelp"
  | version => "DisplayVersion"
  | noCommand => "DisplayHelpOnMissingArgumentOrSubcommand"
  | unknownCommand => "InvalidSubcommand"
  | missingArgument => "MissingRequiredArgument"
  | unknownArgument => "UnknownArgument"
  | badValue => "InvalidValue"
  | failedValidation => "ValueValidation"
  | repeated => "ArgumentConflict"
  | unneededValue => "TooManyValues"

inductive Shape where
  -- Nothing: the argument is there or not.
  | switch
  | text
  -- A path, which is not empty.
  | path
  -- A number below 2^64.
  | number
  -- The word true or false.
  | truth
  -- Texts between commas; the lists of several occurrences are joined.
  | list
  deriving Repr, DecidableEq

def Shape.values (shape : Shape) (word : String) : Except UsageError (List String) :=
  match shape with
  | switch => .error .unneededValue
  | text => .ok [word]
  | path => if word = "" then .error .badValue else .ok [word]
  | number => if (readUInt64? word.toList).isSome then .ok [word] else .error .failedValidation
  | truth => if word = "true" ∨ word = "false" then .ok [word] else .error .badValue
  | list => .ok ((splitOn ',' word.toList).map String.ofList)

structure Argument where
  name : String
  shape : Shape
  -- A variable of the environment that stands in for it.
  standIn : Option String := none
  deriving Repr, DecidableEq

structure Grammar where
  options : List Argument
  places : List Argument := []
  deriving Repr, DecidableEq

abbrev Given := List (String × List String)

def Given.values? (given : Given) (name : String) : Option (List String) :=
  (given.find? (·.1 == name)).map (·.2)

def Given.value? (given : Given) (name : String) : Option String :=
  (given.values? name).bind (·.head?)

structure Reading where
  given : Given := []
  -- The last argument with its value, if it has come; it is not looked at yet.
  pending : Option (Argument × Option String) := none
  -- The places that are still free.
  places : List Argument
  -- Whether only values in places follow.
  trailing : Bool := false

namespace Reading

/-- Adds the values of an argument. Only lists may be given twice. -/
def add (reading : Reading) (argument : Argument) (values : List String) :
    Except UsageError Reading :=
  match reading.given.values? argument.name with
  | none => .ok { reading with given := reading.given ++ [(argument.name, values)] }
  | some earlier =>
    if argument.shape = .list then
      .ok { reading with
        given := reading.given.filter (·.1 != argument.name) ++ [(argument.name, earlier ++ values)] }
    else .error .repeated

def accept (reading : Reading) (argument : Argument) (word : String) :
    Except UsageError Reading := do
  if argument.shape ≠ .list ∧ (reading.given.values? argument.name).isSome then throw .repeated
  reading.add argument (← argument.shape.values word)

def complete (reading : Reading) : Except UsageError Reading :=
  match reading.pending with
  | none => .ok reading
  | some (_, none) => .error .badValue
  | some (argument, some word) => { reading with pending := none }.accept argument word

def expectsValue (reading : Reading) : Bool := reading.pending.any (·.2.isNone)

def takeValue (reading : Reading) (word : String) : Reading :=
  { reading with pending := reading.pending.map fun last => (last.1, some word) }

def takePlace (reading : Reading) (word : String) : Except UsageError Reading :=
  match reading.places with
  | [] => .error .unknownArgument
  | argument :: places => do
    let reading ← reading.complete
    return { reading with pending := some (argument, some word), places := places }

def takeOption (reading : Reading) (argument : Argument) (attached : Option String) :
    Except UsageError Reading :=
  if argument.shape = .switch then
    if attached.isSome then .error .unneededValue
    else do (← reading.complete).add argument []
  else
    match attached with
    | some word => do (← reading.complete).accept argument word
    | none => do return { (← reading.complete) with pending := some (argument, none) }

def helpName : String := "help"

def helpLetter : Char := 'h'

/-- Takes the option for help, which ends the reading unless a value is due. -/
def takeHelp (reading : Reading) (attached : Option String) : Except UsageError Reading :=
  if attached.isSome then .error .unneededValue
  else do
    let _ ← reading.complete
    throw .help

def splitOption (word : List Char) : String × Option String :=
  match splitFirst? '=' word with
  | some (name, value) => (String.ofList name, some (String.ofList value))
  | none => (String.ofList word, none)

def takeWord (grammar : Grammar) (reading : Reading) (word : String) :
    Except UsageError Reading :=
  if reading.trailing then reading.takePlace word
  else
    match word.toList with
    | ['-', '-'] => .ok { reading with trailing := true }
    | '-' :: '-' :: rest =>
      let (name, attached) := splitOption rest
      if name = helpName then reading.takeHelp attached
      else
        match grammar.options.find? (·.name == name) with
        | some argument => reading.takeOption argument attached
        | none => .error .unknownArgument
    | '-' :: letter :: _ =>
      if letter = helpLetter then reading.takeHelp none else .error .unknownArgument
    | _ => if reading.expectsValue then .ok (reading.takeValue word) else reading.takePlace word

def takeVariable (environment : String → Option String) (reading : Reading) (argument : Argument) :
    Except UsageError Reading :=
  if (reading.given.values? argument.name).isSome then .ok reading
  else
    match argument.standIn.bind environment with
    | some word => reading.accept argument word
    | none => .ok reading

end Reading

def Grammar.read (grammar : Grammar) (environment : String → Option String) (words : List String) :
    Except UsageError Given := do
  let start : Reading := { places := grammar.places }
  let reading ← words.foldlM (Reading.takeWord grammar) start
  let reading ← reading.complete
  let reading ← grammar.options.foldlM (Reading.takeVariable environment) reading
  return reading.given

end GpuShare.CommandLine
