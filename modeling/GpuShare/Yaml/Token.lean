import GpuShare.Yaml.Scalar

/-!
The tokens of a YAML text. Indentation opens and closes blocks; a value mark makes a key of what stands
before it on its line, so what may become a key is remembered with the number of its token, and the key
token is put in there later.
-/

set_option autoImplicit false

namespace GpuShare.Yaml

open Text

/-- A token. Of a directive only the tag handle is kept that it defines, of a tag only its handle. -/
inductive Token where
  | directive (handle : List Char)
  | documentStart
  | documentEnd
  | blockSequenceStart
  | blockMappingStart
  | blockEnd
  | flowSequenceStart
  | flowSequenceEnd
  | flowMappingStart
  | flowMappingEnd
  | blockEntry
  | flowEntry
  | key
  | value
  | alias (name : List Char)
  | anchor (name : List Char)
  | tag (handle : List Char)
  -- Text, and whether it stands without quotes in the line.
  | scalar (text : List Char) (plain : Bool)
  deriving DecidableEq

structure PossibleKey where
  -- Nothing but a key can stand here.
  required : Bool
  -- Tokens before it.
  number : Nat
  index : Nat
  line : Nat
  column : Nat

structure Scan where
  cursor : Cursor
  -- Column of the innermost block, -1 outside of all.
  indent : Int := -1
  -- Columns of the blocks around it.
  outer : List Int := []
  -- For the line and for every open bracket, what may still become a key there.
  keys : List (Option PossibleKey) := [none]
  -- Whether a key may stand here.
  keyAllowed : Bool := true
  tokens : Array Token := #[]

namespace Scan

def inFlow (scan : Scan) : Bool := 1 < scan.keys.length

def push (scan : Scan) (token : Token) : Scan := { scan with tokens := scan.tokens.push token }

def putAt (scan : Scan) (number : Nat) (token : Token) : Scan :=
  { scan with
    tokens := (scan.tokens.extract 0 number).push token ++
      scan.tokens.extract number scan.tokens.size }

def advance (scan : Scan) (n : Nat) : Scan := { scan with cursor := scan.cursor.advance n }

def allowKey (scan : Scan) (allowed : Bool) : Scan := { scan with keyAllowed := allowed }

/-- Gives up a possible key, unless it is required. -/
def dropKey? : Option PossibleKey → Option (Option PossibleKey)
  | some key => if key.required then none else some none
  | none => some none

def removeKey? (scan : Scan) : Option Scan :=
  match scan.keys with
  | [] => some scan
  | key :: keys => (dropKey? key).map fun key => { scan with keys := key :: keys }

def saveKey? (scan : Scan) : Option Scan :=
  if scan.keyAllowed then do
    let scan ← scan.removeKey?
    let cursor := scan.cursor
    let key : PossibleKey := {
      required := !scan.inFlow && scan.indent == cursor.column
      number := scan.tokens.size
      index := cursor.index, line := cursor.line, column := cursor.column }
    return { scan with keys := some key :: scan.keys.tail }
  else some scan

/-- Characters within which a key must be followed by its value mark. -/
def maxKeyLength : Nat := 1024

/-- Gives up the possible keys that are on another line or too long. -/
def dropStaleKeys? (scan : Scan) : Option Scan := do
  let keys ← scan.keys.mapM fun
    | none => some none
    | some key =>
      if key.line < scan.cursor.line ∨ key.index + maxKeyLength < scan.cursor.index then
        dropKey? (some key)
      else some (some key)
  return { scan with keys := keys }

/-- Opens a block at a column that is deeper than the innermost one; its token comes after the first
`number` ones. -/
def openBlock (scan : Scan) (column number : Nat) (token : Token) : Scan :=
  if !scan.inFlow && scan.indent < (column : Int) then
    { scan.putAt number token with indent := column, outer := scan.indent :: scan.outer }
  else scan

def closeBlocks (scan : Scan) (column : Int) : Scan :=
  if scan.inFlow then scan
  else
    let rec close (indent : Int) (tokens : Array Token) : List Int → Int × List Int × Array Token
      | [] => (indent, [], tokens)
      | outer :: rest =>
        if column < indent then close outer (tokens.push .blockEnd) rest
        else (indent, outer :: rest, tokens)
    let (indent, outer, tokens) := close scan.indent scan.tokens scan.outer
    { scan with indent := indent, outer := outer, tokens := tokens }

/-- Goes over blanks, comments and line breaks. A new line allows keys outside of brackets. -/
def skipGap (scan : Scan) : Nat → Scan
  | 0 => scan
  | fuel + 1 =>
    match scan.cursor.rest with
    | [] => scan
    | c :: _ =>
      if c = ' ' ∨ (c = '\t' ∧ (scan.inFlow ∨ !scan.keyAllowed)) then skipGap (scan.advance 1) fuel
      else if c = '#' then skipGap { scan with cursor := scan.cursor.skipComment } fuel
      else if isBreak c then
        skipGap { scan with
          cursor := scan.cursor.skipBreak
          keyAllowed := scan.keyAllowed || !scan.inFlow } fuel
      else scan

def openFlow? (scan : Scan) (token : Token) : Option Scan := do
  let scan ← scan.saveKey?
  return { (scan.push token).advance 1 with keys := none :: scan.keys, keyAllowed := true }

def closeFlow? (scan : Scan) (token : Token) : Option Scan := do
  let scan ← scan.removeKey?
  return { (scan.push token).advance 1 with
    keys := if scan.inFlow then scan.keys.tail else scan.keys, keyAllowed := false }

def flowEntry? (scan : Scan) : Option Scan := do
  let scan ← scan.removeKey?
  return ((scan.push .flowEntry).advance 1).allowKey true

def blockEntry? (scan : Scan) : Option Scan := do
  if !scan.inFlow && !scan.keyAllowed then none
  else
    let scan := scan.openBlock scan.cursor.column scan.tokens.size .blockSequenceStart
    let scan ← scan.removeKey?
    return ((scan.push .blockEntry).advance 1).allowKey true

def key? (scan : Scan) : Option Scan := do
  if !scan.inFlow && !scan.keyAllowed then none
  else
    let scan := scan.openBlock scan.cursor.column scan.tokens.size .blockMappingStart
    let scan ← scan.removeKey?
    return ((scan.push .key).advance 1).allowKey !scan.inFlow

/-- Reads the mark of a value: the possible key before it becomes one. -/
def value? (scan : Scan) : Option Scan :=
  match scan.keys with
  | some key :: keys =>
    let scan := { scan.putAt key.number .key with keys := none :: keys }
    let scan := scan.openBlock key.column key.number .blockMappingStart
    some (((scan.push .value).advance 1).allowKey false)
  | _ =>
    if !scan.inFlow && !scan.keyAllowed then none
    else
      let scan := scan.openBlock scan.cursor.column scan.tokens.size .blockMappingStart
      some (((scan.push .value).advance 1).allowKey !scan.inFlow)

def named? (scan : Scan) (token : List Char → Token) : Option Scan := do
  let scan ← scan.saveKey?
  let behind := scan.cursor.advance 1
  let name := behind.rest.takeWhile isWordChar
  let behind := behind.advance name.length
  let ended := endsWord behind.rest ||
    behind.peek?.any fun c => "?:,]\x7d%@".toList.contains c || c.toNat == 0x60
  if name.isEmpty || !ended then none
  else return ({ scan with cursor := behind }.push (token name)).allowKey false

def isTagChar (inAngle : Bool) (c : Char) : Bool :=
  isWordChar c || ";/?:@&=+$.%!~*'()".toList.contains c || (inAngle && ",[]".toList.contains c)

def escapesFit : List Char → Bool
  | [] => true
  | '%' :: a :: b :: rest => (hexValue? a).isSome && (hexValue? b).isSome && escapesFit rest
  | '%' :: _ => false
  | _ :: rest => escapesFit rest

def readTag? (cursor : Cursor) : Option (List Char × Cursor) :=
  match cursor.rest with
  | '!' :: '<' :: rest =>
    let uri := rest.takeWhile (isTagChar true)
    let behind := cursor.advance (2 + uri.length)
    if uri.isEmpty || !escapesFit uri || behind.peek? != some '>' then none
    else some ([], behind.advance 1)
  | '!' :: rest =>
    let name := rest.takeWhile isWordChar
    let tail := rest.drop name.length
    let named := tail.head? == some '!'
    let suffix := (if named then tail.drop 1 else rest).takeWhile (isTagChar false)
    if !escapesFit suffix || (named && suffix.isEmpty) then none
    else
      let before := if named then name.length + 2 else 1
      some (if named then '!' :: name ++ ['!'] else ['!'], cursor.advance (before + suffix.length))
  | _ => none

def tag? (scan : Scan) : Option Scan := do
  let scan ← scan.saveKey?
  let (handle, behind) ← readTag? scan.cursor
  if endsWord behind.rest || (scan.inFlow && behind.peek? == some ',') then
    return ({ scan with cursor := behind }.push (.tag handle)).allowKey false
  else none

def block? (scan : Scan) (literal : Bool) : Option Scan := do
  let scan ← scan.removeKey?
  let (text, behind) ← readBlock? literal scan.indent (scan.cursor.advance 1)
  return ({ scan with cursor := behind }.push (.scalar text false)).allowKey true

def quoted? (scan : Scan) (single : Bool) : Option Scan := do
  let scan ← scan.saveKey?
  let cursor := scan.cursor.advance 1
  let (text, behind) ← readQuoted? single (cursor.rest.length + 1) [] cursor
  return ({ scan with cursor := behind }.push (.scalar text false)).allowKey false

/-- Reads a plain scalar; a line break behind it allows a key. -/
def plain? (scan : Scan) : Option Scan := do
  let scan ← scan.saveKey?
  let (text, broken, behind) ←
    readPlain? scan.inFlow (scan.indent + 1) (scan.cursor.rest.length + 1) {} [] scan.cursor
  return ({ scan with cursor := behind }.push (.scalar text true)).allowKey broken

def startsPlain (inFlow : Bool) (c : Char) (rest : List Char) : Bool :=
  if "-?:,[]\x7b\x7d#&*!|>'\"%@".toList.contains c || c.toNat == 0x60 then
    (c == '-' && !(rest.head?.any isSpace)) ||
      (!inFlow && (c == '?' || c == ':') && !endsWord rest)
  else !(isSpace c || isBreak c)

/-- Reads the version of a version directive: one dot between numbers, and the first number is one. -/
def versionFits (text : List Char) : Bool := text == "1.1".toList || text == "1.2".toList

def directive? (scan : Scan) : Option Scan := do
  let scan ← (scan.closeBlocks (-1)).removeKey?
  let cursor := scan.cursor.advance 1
  let name := cursor.rest.takeWhile isWordChar
  let cursor := cursor.advance name.length
  let line := cursor.rest.takeWhile fun c => !isBreak c
  let words := (line.splitBy fun a b => !isSpace a && !isSpace b).filter fun word =>
    !word.all isSpace
  let handle ← match words.takeWhile fun word => word.head? != some '#' with
    | [version] => if name = "YAML".toList ∧ versionFits version then some [] else none
    | [handle, _] =>
      if name = "TAG".toList ∧ handle.head? = some '!' ∧ handle.getLast? = some '!' then some handle
      else none
    | _ => none
  let behind := (cursor.advance line.length).skipBreak
  return ({ scan with cursor := behind }.push (.directive handle)).allowKey false

def documentMark? (scan : Scan) (token : Token) : Option Scan := do
  let scan ← (scan.closeBlocks (-1)).removeKey?
  return ((scan.push token).advance 3).allowKey false

def token? (scan : Scan) (c : Char) (rest : List Char) : Option Scan :=
  if scan.cursor.column = 0 ∧ c = '%' then scan.directive?
  else if scan.cursor.atMark '-' then scan.documentMark? .documentStart
  else if scan.cursor.atMark '.' then scan.documentMark? .documentEnd
  else if c = '[' then scan.openFlow? .flowSequenceStart
  else if c = '{' then scan.openFlow? .flowMappingStart
  else if c = ']' then scan.closeFlow? .flowSequenceEnd
  else if c = '}' then scan.closeFlow? .flowMappingEnd
  else if c = ',' then scan.flowEntry?
  else if c = '-' ∧ endsWord rest then scan.blockEntry?
  else if c = '?' ∧ (scan.inFlow ∨ endsWord rest) then scan.key?
  else if c = ':' ∧ (scan.inFlow ∨ endsWord rest) then scan.value?
  else if c = '*' then scan.named? .alias
  else if c = '&' then scan.named? .anchor
  else if c = '!' then scan.tag?
  else if c = '|' ∧ !scan.inFlow then scan.block? true
  else if c = '>' ∧ !scan.inFlow then scan.block? false
  else if c = '\'' then scan.quoted? true
  else if c = '"' then scan.quoted? false
  else if startsPlain scan.inFlow c rest then scan.plain?
  else none

def tokens? (scan : Scan) : Nat → Option (Array Token)
  | 0 => none
  | fuel + 1 => do
    let scan := scan.skipGap (scan.cursor.rest.length + 1)
    let scan ← scan.dropStaleKeys?
    let scan := scan.closeBlocks scan.cursor.column
    match scan.cursor.rest with
    | [] =>
      let scan ← (scan.closeBlocks (-1)).removeKey?
      return scan.tokens
    | c :: rest => (← scan.token? c rest).tokens? fuel

end Scan

/-- The tokens of a text, if it can be cut into tokens. A mark of byte order may stand at the start. -/
def Token.scan? (text : List Char) : Option (List Token) :=
  let body := match text with
    | c :: rest => if c.toNat = 0xFEFF then rest else text
    | [] => []
  if body.all isPrintable then
    (Scan.tokens? { cursor := { rest := body } } (body.length + 1)).map Array.toList
  else none

end GpuShare.Yaml
