import Mathlib.Algebra.Field.Basic
import Mathlib.Algebra.Order.Floor.Defs
import RequestSigning.Retry.Limiter

/-!
# Exact rates

The rate limiter over an ordered field with a floor, where sums and quotients are exact: the
rational numbers, or the real ones with their own cube root.  The cube root of a rational number is
seldom rational, so it may be any function.
-/

namespace RequestSigning

/-- The numbers of an ordered field, with `root` for the cube root. -/
@[reducible] def RateNumber.ofField {K : Type} [Field K] [LinearOrder K] [FloorRing K]
    (root : K → K) : RateNumber K where
  ofInt n := n
  tenths n := (n : K) / 10
  greatest := (2 ^ 53 - 1) * 2 ^ 971
  less x y := x < y
  floor x := ⌊x⌋
  cbrt := root
  isCost x := !(x < 0)

end RequestSigning
