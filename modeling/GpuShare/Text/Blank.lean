/-!
Blank characters and trimming. A character is blank exactly if Unicode gives it the property
White_Space; that is more than the ASCII blanks.
-/

set_option autoImplicit false

namespace GpuShare.Text

/-- The ranges of Unicode's White_Space property, ends included. -/
def blankRanges : List (Nat × Nat) :=
  [(0x09, 0x0D), (0x20, 0x20), (0x85, 0x85), (0xA0, 0xA0), (0x1680, 0x1680), (0x2000, 0x200A),
   (0x2028, 0x2029), (0x202F, 0x202F), (0x205F, 0x205F), (0x3000, 0x3000)]

def isBlank (c : Char) : Bool :=
  blankRanges.any fun range => range.1 ≤ c.toNat && c.toNat ≤ range.2

def trimStart (cs : List Char) : List Char := cs.dropWhile isBlank

def trimEnd (cs : List Char) : List Char := (cs.reverse.dropWhile isBlank).reverse

def trim (cs : List Char) : List Char := trimEnd (trimStart cs)

/-- The maximal runs of characters that are not blank, in order. -/
def words (cs : List Char) : List (List Char) :=
  let step (c : Char) (state : List Char × List (List Char)) : List Char × List (List Char) :=
    if isBlank c then ([], if state.1.isEmpty then state.2 else state.1 :: state.2)
    else (c :: state.1, state.2)
  let state := cs.foldr step ([], [])
  if state.1.isEmpty then state.2 else state.1 :: state.2

end GpuShare.Text
