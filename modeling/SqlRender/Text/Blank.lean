/-!
# Character classes given by ranges, and blanks

A class of characters is a list of closed ranges of code points, ascending and apart. Blanks are
the characters that are cut off at both ends of a text: the white space of Unicode and the four
separators U+001C to U+001F.
-/

namespace SqlRender.Text

/-- Membership in ascending ranges. The search stops at the first range that lies above `n`. -/
def inRanges : List (Nat × Nat) → Nat → Bool
  | [], _ => false
  | (lo, hi) :: rest, n => if n < lo then false else decide (n ≤ hi) || inRanges rest n

/-- The ranges ascend and do not touch. -/
def ascending : List (Nat × Nat) → Bool
  | [] => true
  | [r] => decide (r.1 ≤ r.2)
  | r :: s :: rest => decide (r.1 ≤ r.2) && decide (r.2 + 1 < s.1) && ascending (s :: rest)

/-- The number of code points in the ranges. -/
def size (ranges : List (Nat × Nat)) : Nat :=
  ranges.foldr (fun r n => r.2 + 1 - r.1 + n) 0

def blankRanges : List (Nat × Nat) :=
  [(0x9, 0xD), (0x1C, 0x20), (0x85, 0x85), (0xA0, 0xA0), (0x1680, 0x1680), (0x2000, 0x200A),
   (0x2028, 0x2029), (0x202F, 0x202F), (0x205F, 0x205F), (0x3000, 0x3000)]

def isBlank (c : Char) : Bool := inRanges blankRanges c.toNat

example : ascending blankRanges = true ∧ size blankRanges = 29 := by decide

/-- The characters without the blanks in front. -/
def stripLeft (cs : List Char) : List Char := cs.dropWhile isBlank

/-- The characters without the blanks at the end. -/
def stripRight (cs : List Char) : List Char := (cs.reverse.dropWhile isBlank).reverse

/-- The text without the blanks at its two ends. -/
def strip (cs : List Char) : List Char := stripRight (stripLeft cs)

example : strip [' ', '\t', 'a', ' ', 'b', Char.ofNat 0x3000] = ['a', ' ', 'b'] := by decide

end SqlRender.Text
