import RequestSigning.Decimal.Fixed

/-!
# Shortest decimals

The fewest digits that read back as the same binary number, and of those the nearest to its
value, written without an exponent.  Halfway between two decimals the one away from zero is taken.
-/

namespace RequestSigning.Decimal

/-- Which reals read back as `d`: four times the value and both ends, over a common denominator.
The lower gap halves at a power of two; the ends belong to an even mantissa. -/
def Dyadic.readsBack (d : Dyadic) (num den : Nat) : Bool :=
  let gap := if d.mantissa = Nat.pow 2 52 ∧ -1074 < d.exponent then 1 else 2
  let low := 4 * d.mantissa - gap
  let high := 4 * d.mantissa + 2
  let unit := Dyadic.ratio ⟨false, 1, d.exponent - 2⟩
  let value := num * unit.2
  if d.mantissa % 2 = 0 then low * unit.1 * den ≤ value && value ≤ high * unit.1 * den
  else low * unit.1 * den < value && value < high * unit.1 * den

/-- The least `k` with `num / den < 10^k`, searched from `-400`. -/
def magnitude (num den : Nat) : Nat → Int → Int
  | 0, k => k
  | fuel + 1, k =>
    let below := if 0 ≤ k then num < den * Nat.pow 10 k.toNat else num * Nat.pow 10 (-k).toNat < den
    if below then k else magnitude num den fuel (k + 1)

/-- A decimal `digits · 10^exponent` as a fraction. -/
def scaled (digits : Nat) (exponent : Int) : Nat × Nat :=
  if 0 ≤ exponent then (digits * Nat.pow 10 exponent.toNat, 1)
  else (digits, Nat.pow 10 (-exponent).toNat)

/-- The two neighbours of the value on the grid of `10^exponent`: the nearer one that reads back,
the upper one of two equally near. -/
def onGrid? (d : Dyadic) (exponent : Int) : Option Nat :=
  let v := d.ratio
  let grid := scaled 1 exponent
  let num := v.1 * grid.2
  let den := v.2 * grid.1
  let lower := num / den
  let hits := fun n => d.readsBack (scaled n exponent).1 (scaled n exponent).2
  let nearest := roundHalfUp num den
  let other := if nearest = lower then lower + 1 else lower
  if hits nearest then some nearest else if hits other then some other else none

/-- The first grid, from one digit on, with a decimal that reads back. -/
def shortestFrom (d : Dyadic) (top : Int) : Nat → Nat → Nat × Int
  | 0, count => (0, top - count)
  | fuel + 1, count =>
    match onGrid? d (top - count) with
    | some n => (n, top - count)
    | none => shortestFrom d top fuel (count + 1)

/-- Digits and exponent of the shortest decimal of a number that is not zero. -/
def shortestDigits (d : Dyadic) : Nat × Int :=
  shortestFrom d (magnitude d.ratio.1 d.ratio.2 800 (-400)) 17 1

/-- `digits · 10^exponent` in positional notation; a fraction ends in a digit other than zero. -/
def positional (digits : Nat) (exponent : Int) : String :=
  if 0 ≤ exponent then toString (digits * Nat.pow 10 exponent.toNat)
  else
    let places := (-exponent).toNat
    let whole := placed places digits
    let trimmed := (whole.toList.reverse.dropWhile (· = '0')).dropWhile (· = '.')
    String.ofList trimmed.reverse

/-- The number in the fewest digits that read back, without an exponent. -/
def shortest (x : Float) : String :=
  match Dyadic.ofFloat? x with
  | none => nonFinite x
  | some d =>
    (if d.negative then "-" else "") ++
      if d.mantissa = 0 then "0"
      else positional (shortestDigits d).1 (shortestDigits d).2

end RequestSigning.Decimal
