/-!
# Cutting texts apart and joining them

Texts are cut as lists of characters, so that each function here is one recursion over the list.
-/

namespace SqlRender.Text

/-- The piece before the first `sep`, and the pieces after it. -/
def splitFirst (sep : Char) : List Char → List Char × List (List Char)
  | [] => ([], [])
  | c :: cs =>
    let (piece, pieces) := splitFirst sep cs
    if c = sep then ([], piece :: pieces) else (c :: piece, pieces)

/-- All pieces between the occurrences of `sep`. A text without `sep` is one piece. -/
def split (sep : Char) (cs : List Char) : List (List Char) :=
  let (piece, pieces) := splitFirst sep cs
  piece :: pieces

/-- The pieces with `sep` between neighbours. -/
def join (sep : List Char) : List (List Char) → List Char
  | [] => []
  | [piece] => piece
  | piece :: pieces => piece ++ sep ++ join sep pieces

/-- The texts with `sep` between neighbours. -/
def joined (sep : String) : List String → String
  | [] => ""
  | [text] => text
  | text :: texts => text ++ sep ++ joined sep texts

/-- The rest of `cs` behind `front`, if `cs` begins with it. -/
def dropFront? : List Char → List Char → Option (List Char)
  | [], cs => some cs
  | _ :: _, [] => none
  | f :: front, c :: cs => if f = c then dropFront? front cs else none

/-- Cuts at the last occurrence of `sep`: what stands before it and what stands after it. -/
def cutLast? (sep : List Char) : List Char → Option (List Char × List Char)
  | [] => (dropFront? sep []).map fun rest => ([], rest)
  | c :: cs =>
    match cutLast? sep cs with
    | some (before, after) => some (c :: before, after)
    | none => (dropFront? sep (c :: cs)).map fun rest => ([], rest)

/-- Writes every occurrence of `mark` twice, from the left and without overlap. `copy` counts the
characters of an occurrence that are still to be copied. -/
def doubleFrom (mark : List Char) : Nat → List Char → List Char
  | _, [] => []
  | copy + 1, c :: cs => c :: doubleFrom mark copy cs
  | 0, c :: cs =>
    if mark ≠ [] ∧ mark.isPrefixOf (c :: cs) then
      mark ++ c :: doubleFrom mark (mark.length - 1) cs
    else c :: doubleFrom mark 0 cs

/-- The text with every occurrence of `mark` written twice. -/
def double (mark cs : List Char) : List Char := doubleFrom mark 0 cs

example : split '.' ['a', '.', 'b', '.'] = [['a'], ['b'], []] := by decide

example : cutLast? ['_', '_'] ['a', '_', '_', '_', 'b'] = some (['a', '_'], ['b']) := by decide

example : double ['[', ']'] ['a', '[', ']', ']'] = ['a', '[', ']', '[', ']', ']'] := by decide

end SqlRender.Text
