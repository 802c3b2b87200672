/-!
Cutting text at separators, markers and edges. Text is a list of characters here, so every
function is a recursion on its input; main statement: joining the pieces of a split with the
separator gives the text back.
-/

set_option autoImplicit false

namespace GpuShare.Text

/-- The pieces between the occurrences of `sep`; a text without `sep` is one piece. -/
def splitOn (sep : Char) : List Char → List (List Char)
  | [] => [[]]
  | c :: cs =>
    if c = sep then [] :: splitOn sep cs
    else match splitOn sep cs with
      | [] => [[c]]
      | piece :: pieces => (c :: piece) :: pieces

def joinWith (sep : Char) : List (List Char) → List Char
  | [] => []
  | [piece] => piece
  | piece :: pieces => piece ++ sep :: joinWith sep pieces

theorem splitOn_ne_nil (sep : Char) (cs : List Char) : splitOn sep cs ≠ [] := by
  cases cs with
  | nil => simp [splitOn]
  | cons c cs =>
    simp only [splitOn]
    split
    · simp
    · split <;> simp

theorem joinWith_cons (sep : Char) (piece : List Char) {pieces : List (List Char)}
    (some_piece : pieces ≠ []) :
    joinWith sep (piece :: pieces) = piece ++ sep :: joinWith sep pieces := by
  cases pieces with
  | nil => exact absurd rfl some_piece
  | cons => rfl

theorem joinWith_splitOn (sep : Char) (cs : List Char) : joinWith sep (splitOn sep cs) = cs := by
  induction cs with
  | nil => rfl
  | cons c cs ih =>
    simp only [splitOn]
    split
    · next same => rw [joinWith_cons _ _ (splitOn_ne_nil sep cs), ih, same]; rfl
    · split
      · next nothing => exact absurd nothing (splitOn_ne_nil sep cs)
      · next piece pieces cut =>
        rw [cut] at ih
        cases pieces with
        | nil => simpa [joinWith] using ih
        | cons => simpa [joinWith] using ih

def splitFirst? (sep : Char) : List Char → Option (List Char × List Char)
  | [] => none
  | c :: cs =>
    if c = sep then some ([], cs)
    else (splitFirst? sep cs).map fun parts => (c :: parts.1, parts.2)

def splitLast? (sep : Char) : List Char → Option (List Char × List Char)
  | [] => none
  | c :: cs =>
    match splitLast? sep cs with
    | some parts => some (c :: parts.1, parts.2)
    | none => if c = sep then some ([], cs) else none

def stripStart? : List Char → List Char → Option (List Char)
  | [], cs => some cs
  | _ :: _, [] => none
  | m :: ms, c :: cs => if m = c then stripStart? ms cs else none

def stripLast? (last : Char) : List Char → Option (List Char)
  | [] => none
  | [c] => if c = last then some [] else none
  | c :: d :: cs => (stripLast? last (d :: cs)).map (c :: ·)

def afterFirst? (marker : List Char) : List Char → Option (List Char)
  | [] => stripStart? marker []
  | c :: cs =>
    match stripStart? marker (c :: cs) with
    | some rest => some rest
    | none => afterFirst? marker cs

def beforeFirst? (marker : List Char) : List Char → Option (List Char)
  | [] => (stripStart? marker []).map fun _ => []
  | c :: cs =>
    match stripStart? marker (c :: cs) with
    | some _ => some []
    | none => (beforeFirst? marker cs).map (c :: ·)

/-- The text between the first `opening` and the first `closing` after it. -/
def between? (opening closing cs : List Char) : Option (List Char) :=
  (afterFirst? opening cs).bind (beforeFirst? closing)

def occursIn (marker cs : List Char) : Bool := (afterFirst? marker cs).isSome

/-- The lines of a text: a line feed ends a line, a carriage return before it belongs to the end,
and a final line feed opens no further line. -/
def lines (cs : List Char) : List (List Char) :=
  let pieces := splitOn '\n' cs
  let ended := pieces.dropLast.map fun line => (stripLast? '\r' line).getD line
  match pieces.getLast? with
  | none | some [] => ended
  | some line => ended ++ [line]

end GpuShare.Text
