/-!
A place in a YAML text: the characters ahead, and how far they are from the start of the text and of
their line. A line break is one of five characters, or a carriage return with a line feed.
-/

set_option autoImplicit false

namespace GpuShare.Yaml

def isBreak (c : Char) : Bool :=
  c == '\n' || c == '\r' || c.toNat == 0x85 || c.toNat == 0x2028 || c.toNat == 0x2029

def isSpace (c : Char) : Bool := c == ' ' || c == '\t'

def isPrintable (c : Char) : Bool :=
  let n := c.toNat
  n == 0x09 || n == 0x0A || n == 0x0D || (0x20 ≤ n && n ≤ 0x7E) || n == 0x85 ||
    (0xA0 ≤ n && n ≤ 0xD7FF) || (0xE000 ≤ n && n ≤ 0xFFFD && n != 0xFEFF) || 0x10000 ≤ n

def isWordChar (c : Char) : Bool := c.isAlphanum || c == '_' || c == '-'

/-- Whether a word ends here: at a blank, a line break or the end. -/
def endsWord : List Char → Bool
  | [] => true
  | c :: _ => isSpace c || isBreak c

structure Cursor where
  rest : List Char
  index : Nat := 0
  line : Nat := 0
  column : Nat := 0

namespace Cursor

def peek? (cursor : Cursor) : Option Char := cursor.rest.head?

def advance (cursor : Cursor) (n : Nat) : Cursor :=
  { cursor with
    rest := cursor.rest.drop n, index := cursor.index + n, column := cursor.column + n }

def advanceWhile (cursor : Cursor) (p : Char → Bool) : Cursor :=
  cursor.advance (cursor.rest.takeWhile p).length

/-- Goes over a line break: what it stands for in a text, and the place behind it. -/
def takeBreak (cursor : Cursor) : List Char × Cursor :=
  let behind (n : Nat) : Cursor := ⟨cursor.rest.drop n, cursor.index + n, cursor.line + 1, 0⟩
  match cursor.rest with
  | '\r' :: '\n' :: _ => (['\n'], behind 2)
  | c :: _ =>
    if c.toNat = 0x2028 ∨ c.toNat = 0x2029 then ([c], behind 1)
    else if isBreak c then (['\n'], behind 1)
    else ([], cursor)
  | [] => ([], cursor)

def skipBreak (cursor : Cursor) : Cursor := cursor.takeBreak.2

def skipComment (cursor : Cursor) : Cursor := cursor.advanceWhile fun c => !isBreak c

def atMark (cursor : Cursor) (mark : Char) : Bool :=
  cursor.column == 0 &&
    match cursor.rest with
    | a :: b :: c :: rest => a == mark && b == mark && c == mark && endsWord rest
    | _ => false

def atDocumentMark (cursor : Cursor) : Bool := cursor.atMark '-' || cursor.atMark '.'

/-- The rest of a line with nothing but blanks and a comment: the place behind it. -/
def skipRestOfLine? (cursor : Cursor) : Option Cursor :=
  let cursor := cursor.advanceWhile isSpace
  let cursor := if cursor.peek? = some '#' then cursor.skipComment else cursor
  match cursor.rest with
  | [] => some cursor
  | c :: _ => if isBreak c then some cursor.skipBreak else none

end Cursor

end GpuShare.Yaml
