import GpuShare.Text.Decimal
import GpuShare.Text.Hex
import GpuShare.Yaml.Cursor

/-!
The scalars of YAML: plain, quoted and block text. Inside a scalar a single line break becomes a blank,
and of several line breaks the first is dropped; a literal block keeps them all.
-/

set_option autoImplicit false

namespace GpuShare.Yaml

open Text

structure Gap where
  -- The blanks, if the line goes on.
  spaces : List Char := []
  -- The first line break.
  first : List Char := []
  -- The line breaks after the first.
  others : List Char := []
  -- Whether the line has ended.
  broken : Bool := false

/-- What stands for line breaks: a blank for a single one, else all but the first. -/
def folded (first others : List Char) : List Char :=
  if first.head? = some '\n' then (if others.isEmpty then [' '] else others) else first ++ others

def Gap.text (gap : Gap) : List Char :=
  if gap.broken then folded gap.first gap.others else gap.spaces

/-- Reads a gap. After a line break a tab must not stand before `indent`. -/
def readGap? (indent : Int) : Nat → Gap → Cursor → Option (Gap × Cursor)
  | 0, gap, cursor => some (gap, cursor)
  | fuel + 1, gap, cursor =>
    match cursor.rest with
    | [] => some (gap, cursor)
    | c :: _ =>
      if isSpace c then
        if gap.broken then
          if c = '\t' ∧ (cursor.column : Int) < indent then none
          else readGap? indent fuel gap (cursor.advance 1)
        else readGap? indent fuel { gap with spaces := gap.spaces ++ [c] } (cursor.advance 1)
      else if isBreak c then
        let (text, behind) := cursor.takeBreak
        if gap.broken then readGap? indent fuel { gap with others := gap.others ++ text } behind
        else readGap? indent fuel { gap with spaces := [], first := text, broken := true } behind
      else some (gap, cursor)

def isFlowEnd (c : Char) : Bool := c == ',' || c == '[' || c == ']' || c == '{' || c == '}'

/-- The length of the plain word ahead. Inside brackets a colon must not stand right before one of
their marks. -/
def plainWord? (inFlow : Bool) : List Char → Option Nat
  | [] => some 0
  | c :: rest =>
    if isSpace c || isBreak c then some 0
    else if c = ':' then
      if inFlow && (rest.head?.any fun d => isFlowEnd d || d == '?') then none
      else if endsWord rest then some 0
      else (plainWord? inFlow rest).map (· + 1)
    else if inFlow && isFlowEnd c then some 0
    else (plainWord? inFlow rest).map (· + 1)

/-- Reads a plain scalar: its text, whether a line break follows it, and the place behind it. -/
def readPlain? (inFlow : Bool) (indent : Int) :
    Nat → Gap → List Char → Cursor → Option (List Char × Bool × Cursor)
  | 0, gap, text, cursor => some (text, gap.broken, cursor)
  | fuel + 1, gap, text, cursor =>
    if cursor.atDocumentMark || cursor.peek? == some '#' then some (text, gap.broken, cursor)
    else do
      let length ← plainWord? inFlow cursor.rest
      let text := if length = 0 then text else text ++ gap.text ++ cursor.rest.take length
      let pending : Gap := if length = 0 then gap else {}
      let behind := cursor.advance length
      match behind.rest with
      | [] => return (text, pending.broken, behind)
      | c :: _ =>
        if isSpace c || isBreak c then
          let (gap, next) ← readGap? indent (behind.rest.length + 1) pending behind
          if !inFlow && (next.column : Int) < indent then return (text, gap.broken, next)
          else readPlain? inFlow indent fuel gap text next
        else return (text, pending.broken, behind)

def codeChar? (digits : List Char) : Option Char := do
  let values ← digits.mapM hexValue?
  let code := values.foldl (fun code d => code * 16 + d) 0
  if code < 0xD800 ∨ (0xDFFF < code ∧ code ≤ 0x10FFFF) then some (Char.ofNat code) else none

def escaped? (c : Char) : Option Char :=
  match c with
  | '0' => some (Char.ofNat 0)
  | 'a' => some (Char.ofNat 7)
  | 'b' => some (Char.ofNat 8)
  | 't' | '\t' => some '\t'
  | 'n' => some '\n'
  | 'v' => some (Char.ofNat 11)
  | 'f' => some (Char.ofNat 12)
  | 'r' => some '\r'
  | 'e' => some (Char.ofNat 27)
  | ' ' => some ' '
  | '"' => some '"'
  | '/' => some '/'
  | '\\' => some '\\'
  | 'N' => some (Char.ofNat 0x85)
  | '_' => some (Char.ofNat 0xA0)
  | 'L' => some (Char.ofNat 0x2028)
  | 'P' => some (Char.ofNat 0x2029)
  | _ => none

def readEscape? : List Char → Option (Char × Nat)
  | [] => none
  | c :: rest =>
    let coded (n : Nat) : Option (Char × Nat) :=
      if (rest.take n).length = n then (codeChar? (rest.take n)).map fun d => (d, n + 1) else none
    if c = 'x' then coded 2
    else if c = 'u' then coded 4
    else if c = 'U' then coded 8
    else (escaped? c).map fun d => (d, 1)

/-- Reads the characters of a quoted scalar up to a blank, a line break or the closing quote: the text,
whether an escaped line break ended it, and the place behind it. -/
def quotedWord? (single : Bool) :
    Nat → List Char → Cursor → Option (List Char × Bool × Cursor)
  | 0, text, cursor => some (text, false, cursor)
  | fuel + 1, text, cursor =>
    match cursor.rest with
    | [] => some (text, false, cursor)
    | c :: rest =>
      if isSpace c || isBreak c then some (text, false, cursor)
      else if single then
        if c = '\'' then
          if rest.head? = some '\'' then quotedWord? single fuel (text ++ [c]) (cursor.advance 2)
          else some (text, false, cursor)
        else quotedWord? single fuel (text ++ [c]) (cursor.advance 1)
      else if c = '"' then some (text, false, cursor)
      else if c = '\\' then
        if rest.head?.any isBreak then some (text, true, (cursor.advance 1).skipBreak)
        else do
          let (d, length) ← readEscape? rest
          quotedWord? single fuel (text ++ [d]) (cursor.advance (length + 1))
      else quotedWord? single fuel (text ++ [c]) (cursor.advance 1)

def readQuoted? (single : Bool) : Nat → List Char → Cursor → Option (List Char × Cursor)
  | 0, _, _ => none
  | fuel + 1, text, cursor =>
    if cursor.atDocumentMark || cursor.rest.isEmpty then none
    else do
      let (text, broken, behind) ← quotedWord? single (cursor.rest.length + 1) text cursor
      if behind.peek? = some (if single then '\'' else '"') then return (text, behind.advance 1)
      else
        let (gap, next) ← readGap? (-1) (behind.rest.length + 1) { broken := broken } behind
        readQuoted? single fuel (text ++ gap.text) next

inductive Chomping where
  | strip
  | clip
  | keep
  deriving DecidableEq

def readBlockHead? (cursor : Cursor) : Option (Chomping × Nat × Cursor) :=
  let chomping? (c : Char) : Option Chomping :=
    if c = '+' then some .keep else if c = '-' then some .strip else none
  let increment? (c : Char) : Option Nat := (digitValue? c).filter (0 < ·)
  let zero (c : Char) : Bool := c == '0'
  match cursor.rest with
  | a :: b :: _ =>
    if zero a then none
    else match chomping? a, increment? a with
    | some chomping, _ =>
      if zero b then none
      else match increment? b with
      | some n => some (chomping, n, cursor.advance 2)
      | none => some (chomping, 0, cursor.advance 1)
    | none, some n =>
      match chomping? b with
      | some chomping => some (chomping, n, cursor.advance 2)
      | none => some (.clip, n, cursor.advance 1)
    | none, none => some (.clip, 0, cursor)
  | [a] =>
    if zero a then none
    else match chomping? a, increment? a with
    | some chomping, _ => some (chomping, 0, cursor.advance 1)
    | none, some n => some (.clip, n, cursor.advance 1)
    | none, none => some (.clip, 0, cursor)
  | [] => some (.clip, 0, cursor)

/-- Goes over indentation and empty lines of a block: the line breaks, the deepest column seen, and the
place behind them. An indentation of zero is not known yet. -/
def blockBreaks? (indent : Nat) :
    Nat → Nat → List Char → Cursor → Option (List Char × Nat × Cursor)
  | 0, deepest, breaks, cursor => some (breaks, deepest, cursor)
  | fuel + 1, deepest, breaks, cursor =>
    let spaces := (cursor.rest.takeWhile (· == ' ')).length
    let wanted := if indent = 0 then spaces else min spaces (indent - cursor.column)
    let cursor := cursor.advance wanted
    let deepest := max deepest cursor.column
    match cursor.rest with
    | [] => some (breaks, deepest, cursor)
    | c :: _ =>
      if c = '\t' ∧ (indent = 0 ∨ cursor.column < indent) then none
      else if isBreak c then
        let (text, behind) := cursor.takeBreak
        blockBreaks? indent fuel deepest (breaks ++ text) behind
      else some (breaks, deepest, cursor)

structure Block where
  text : List Char := []
  -- The line break of the last line.
  first : List Char := []
  -- The empty lines after it.
  others : List Char := []
  -- Whether the last line starts with a blank, and so is not folded.
  indented : Bool := false

def Block.joint (block : Block) (literal indented : Bool) : List Char :=
  if !literal && block.first.head? == some '\n' && !block.indented && !indented then
    if block.others.isEmpty then [' '] else block.others
  else block.first ++ block.others

def blockLines? (literal : Bool) (indent : Nat) : Nat → Block → Cursor → Option (Block × Cursor)
  | 0, block, cursor => some (block, cursor)
  | fuel + 1, block, cursor =>
    if cursor.column ≠ indent ∨ cursor.rest.isEmpty then some (block, cursor)
    else do
      let indented := cursor.peek?.any isSpace
      let line := cursor.rest.takeWhile fun c => !isBreak c
      let (first, behind) := (cursor.advance line.length).takeBreak
      let text := block.text ++ block.joint literal indented ++ line
      let (others, _, next) ← blockBreaks? indent (behind.rest.length + 1) 0 [] behind
      blockLines? literal indent fuel ⟨text, first, others, indented⟩ next

/-- Reads a block scalar from behind its mark: its text, and the place behind it. `parent` is the
indentation around it. -/
def readBlock? (literal : Bool) (parent : Int) (cursor : Cursor) : Option (List Char × Cursor) := do
  let (chomping, increment, cursor) ← readBlockHead? cursor
  let cursor ← cursor.skipRestOfLine?
  let fuel := cursor.rest.length + 1
  let asked : Nat := if increment = 0 then 0 else increment + parent.toNat
  let (breaks, deepest, cursor) ← blockBreaks? asked fuel 0 [] cursor
  let indent : Nat := if asked = 0 then max (max deepest (parent + 1).toNat) 1 else asked
  let (block, cursor) ← blockLines? literal indent fuel { others := breaks } cursor
  let text := match chomping with
    | .strip => block.text
    | .clip => block.text ++ block.first
    | .keep => block.text ++ block.first ++ block.others
  return (text, cursor)

end GpuShare.Yaml
