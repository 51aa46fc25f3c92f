/-!
# `InfixCalc.Text.Ranges`: sets of characters as ranges of code points

The character classes of this library are tables of code point ranges. This module says
what it means for a character to lie in such a table, and splits two tables' union.
-/

set_option autoImplicit false

namespace InfixCalc.Text

/-- The character's code point lies in one of the closed ranges. -/
def inRanges (ranges : List (Nat × Nat)) (c : Char) : Bool :=
  ranges.any fun range => range.1 ≤ c.toNat && c.toNat ≤ range.2

/-- Two tables one after the other hold what either of them holds. -/
theorem inRanges_append (low high : List (Nat × Nat)) (c : Char) :
    inRanges (low ++ high) c = (inRanges low c || inRanges high c) := by
  simp [inRanges]

end InfixCalc.Text
