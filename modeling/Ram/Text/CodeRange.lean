/-!
# Sets of characters as ranges of code points

A property of characters that a standard lists, such as being blank or being a
letter with case, is a union of ranges of code points.  This module holds the
one representation that all such tables share, a list of closed ranges, and the
membership test on it.
-/

namespace Ram.Text

/-- A set of characters as a list of ranges of code points.  A pair `(lo, hi)`
stands for every code point from `lo` to `hi`, both included. -/
abbrev CodeRanges := List (Nat × Nat)

/-- Whether some range of the list holds the character. -/
def CodeRanges.holds (ranges : CodeRanges) (c : Char) : Bool :=
  ranges.any fun range => range.1 ≤ c.toNat && c.toNat ≤ range.2

/-- A character is held exactly when its code point lies between the ends of
one of the ranges. -/
theorem CodeRanges.holds_iff {ranges : CodeRanges} {c : Char} :
    ranges.holds c = true ↔ ∃ range ∈ ranges, range.1 ≤ c.toNat ∧ c.toNat ≤ range.2 := by
  simp [CodeRanges.holds]

end Ram.Text
