import GpuShare.Yaml.Decode

/-!
Writing YAML text, in blocks. A text stands plain if nothing in it could be read otherwise, else in single
quotes, else in double quotes with escapes; a text of several lines is a literal block.
-/

set_option autoImplicit false

namespace GpuShare.Yaml

open Text

def isWritable (c : Char) : Bool :=
  let n := c.toNat
  n == 0x0A || (0x20 ≤ n && n ≤ 0x7E) || (0xA0 ≤ n && n ≤ 0xFFFD && n != 0xFEFF)

def marksStart (c : Char) (rest : List Char) : Bool :=
  "#,[]\x7b\x7d&*!|>'\"%@".toList.contains c || c.toNat == 0x60 ||
    ("?:-".toList.contains c && endsWord rest)

/-- Whether a mark in the text keeps it from being plain: a colon at the end of a word, or a number sign
at the start of one. -/
def marksInside : List Char → Bool
  | a :: b :: rest =>
    (b == ':' && endsWord rest) || (b == '#' && (isSpace a || isBreak a)) ||
      marksInside (b :: rest)
  | _ => false

def hasPair (p : Char → Char → Bool) : List Char → Bool
  | a :: b :: rest => p a b || hasPair p (b :: rest)
  | _ => false

def startsLikeMark (text : List Char) : Bool :=
  (stripStart? text).isSome
where
  -- What follows three dashes or dots.
  stripStart? : List Char → Option (List Char)
    | '-' :: '-' :: '-' :: rest => some rest
    | '.' :: '.' :: '.' :: rest => some rest
    | _ => none

inductive Style where
  | plain
  | single
  | double
  | literal
  deriving DecidableEq

def hasOuterBlank (text : List Char) : Bool :=
  text.head?.any (fun c => c == ' ' || isBreak c) || text.getLast?.any fun c => c == ' ' || isBreak c

/-- Whether a text has only characters that are written as they are, and no blank before a break. -/
def isClean (text : List Char) : Bool :=
  text.all isWritable && !hasPair (fun a b => a == ' ' && isBreak b) text

def mayBePlain (text : List Char) : Bool :=
  isText text && !isZeroPadded text && isClean text && !hasOuterBlank text &&
    !text.any isBreak && !startsLikeMark text && !marksInside text &&
    match text with
    | [] => false
    | c :: rest => !marksStart c rest

def mayBeSingle (text : List Char) : Bool :=
  isClean text && !hasPair (fun a b => isBreak a && b == ' ') text

/-- How a text is written; a key has only one line. -/
def styleOf (isKey : Bool) (text : List Char) : Style :=
  if text.contains '\n' then
    if isClean text && text.getLast? != some ' ' && !isKey then .literal else .double
  else if isKey && text.any isBreak then .double
  else if mayBePlain text then .plain
  else if mayBeSingle text then .single
  else .double

def escapeLetter? (c : Char) : Option Char :=
  match c.toNat with
  | 0 => some '0'
  | 7 => some 'a'
  | 8 => some 'b'
  | 9 => some 't'
  | 10 => some 'n'
  | 11 => some 'v'
  | 12 => some 'f'
  | 13 => some 'r'
  | 27 => some 'e'
  | 0x22 => some '"'
  | 0x5C => some '\\'
  | 0x85 => some 'N'
  | 0x2028 => some 'L'
  | 0x2029 => some 'P'
  | _ => none

def escape (c : Char) : List Char :=
  match escapeLetter? c with
  | some letter => ['\\', letter]
  | none =>
    if isWritable c then [c]
    else
      let n := c.toNat
      let digits (count : Nat) : List Char := (hexDigits count n).map Char.toUpper
      if n ≤ 0xFF then '\\' :: 'x' :: digits 2
      else if n ≤ 0xFFFF then '\\' :: 'u' :: digits 4
      else '\\' :: 'U' :: digits 8

/-- Columns by which a block is deeper than what is around it. -/
def indentStep : Nat := 2

/-- What the head of a literal block says about its indentation and its last line breaks. -/
def literalHints (text : List Char) : List Char :=
  let indentation := if text.head?.any fun c => c == ' ' || isBreak c then digits indentStep else []
  let chomping := match text.reverse with
    | [] => ['-']
    | c :: before =>
      if !isBreak c then ['-']
      else if before.head?.all isBreak then ['+']
      else []
  indentation ++ chomping

/-- A line of a literal block; an empty one is not indented. -/
def literalLine (indent : Nat) (line : List Char) : List Char :=
  if line.isEmpty then [] else List.replicate indent ' ' ++ line

def splitLines : List Char → List (List Char)
  | [] => [[]]
  | c :: rest =>
    match splitLines rest with
    | [] => [[c]]
    | line :: lines => if c = '\n' then [] :: line :: lines else (c :: line) :: lines

def literal (indent : Nat) (text : List Char) : List Char :=
  let lines := splitLines text
  let lines := if lines.getLast? = some [] then lines.dropLast else lines
  '|' :: literalHints text ++ lines.flatMap fun line => '\n' :: literalLine indent line

def writeText (isKey : Bool) (indent : Nat) (text : List Char) : List Char :=
  match styleOf isKey text with
  | .plain => text
  | .single => '\'' :: text.flatMap (fun c => if c = '\'' then ['\'', '\''] else [c]) ++ ['\'']
  | .double => '"' :: text.flatMap escape ++ ['"']
  | .literal => literal indent text

/-- Bytes of the longest key that needs no mark. -/
def maxSimpleKey : Nat := 128

def isSimpleKey (text : List Char) : Bool :=
  !text.any isBreak && (String.ofList text).utf8ByteSize ≤ maxSimpleKey

def writeKey (indent : Nat) : Node → List Char
  | .scalar text true => text ++ [':']
  | .scalar text false =>
    if isSimpleKey text then writeText true indent text ++ [':']
    else
      '?' :: ' ' :: writeText false (indent + indentStep) text ++
        '\n' :: List.replicate indent ' ' ++ [':']
  | _ => [':']

def newLine (indent : Nat) : List Char := '\n' :: List.replicate indent ' '

mutual

def writeValue (indent : Nat) : Node → List Char
  | .scalar text true => ' ' :: text
  | .scalar text false => ' ' :: writeText false (indent + indentStep) text
  | .sequence [] => [' ', '[', ']']
  | .sequence (item :: items) => newLine indent ++ writeItems indent (item :: items)
  | .mapping [] => [' ', '{', '}']
  | .mapping (pair :: pairs) =>
    newLine (indent + indentStep) ++ writePairs (indent + indentStep) (pair :: pairs)

def writeNode (indent : Nat) : Node → List Char
  | .scalar text true => text
  | .scalar text false => writeText false indent text
  | .sequence [] => ['[', ']']
  | .sequence (item :: items) => writeItems indent (item :: items)
  | .mapping [] => ['{', '}']
  | .mapping (pair :: pairs) => writePairs indent (pair :: pairs)

def writeItems (indent : Nat) : List Node → List Char
  | [] => []
  | item :: items =>
    '-' :: ' ' :: writeNode (indent + indentStep) item ++
      (if items.isEmpty then [] else newLine indent) ++ writeItems indent items

def writePairs (indent : Nat) : List (Node × Node) → List Char
  | [] => []
  | (key, value) :: pairs =>
    writeKey indent key ++ writeValue indent value ++
      (if pairs.isEmpty then [] else newLine indent) ++ writePairs indent pairs

end

def Node.render (node : Node) : String := String.ofList (writeNode 0 node ++ ['\n'])

end GpuShare.Yaml
