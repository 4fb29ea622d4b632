/-! # Sets of code points

A set of code points is written as a list of inclusive ranges. The tables of this library that come
from the Unicode character database are such lists. -/

namespace Schemata.Text

/-- An inclusive range of code points, given by its first and its last member. -/
abbrev CodeRange := Nat × Nat

/-- Membership of a code point in a union of ranges. -/
def inRanges (ranges : List CodeRange) (code : Nat) : Bool :=
  ranges.any fun range => range.1 ≤ code && code ≤ range.2

/-- No code point lies in the empty union. -/
@[simp] theorem inRanges_nil (code : Nat) : inRanges [] code = false := rfl

/-- A union of ranges holds a code point when one of them does. -/
@[simp] theorem inRanges_cons (range : CodeRange) (ranges : List CodeRange) (code : Nat) :
    inRanges (range :: ranges) code
      = ((decide (range.1 ≤ code) && decide (code ≤ range.2)) || inRanges ranges code) := rfl

end Schemata.Text
