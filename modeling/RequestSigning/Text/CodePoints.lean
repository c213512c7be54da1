/-!
# Sets of code points

A set of code points as its ranges in ascending order.
-/

namespace RequestSigning.Text

/-- Ranges of code points, first and last of each, in ascending order. -/
abbrev CodePoints := List (Nat × Nat)

namespace CodePoints

/-- Whether a code point lies in one of the ranges; none beyond it is looked at. -/
def contains : CodePoints → Nat → Bool
  | [], _ => false
  | range :: ranges, n => range.1 ≤ n && (n ≤ range.2 || contains ranges n)

end CodePoints

end RequestSigning.Text
