import RequestSigning.Decimal.CubeRoot
import RequestSigning.Time.Instant

/-!
# Numbers for rates

The arithmetic a rate limiter needs, so that it runs on binary floating-point numbers and can be
reasoned about on exact ones.
-/

namespace RequestSigning

/-- Numbers that rates are computed in. -/
class RateNumber (α : Type) extends Add α, Sub α, Mul α, Div α where
  ofInt : Int → α
  tenths : Nat → α
  greatest : α
  less : α → α → Bool
  floor : α → α
  cbrt : α → α
  /-- Whether a request can cost this much: a finite number that is not negative. -/
  isCost : α → Bool

namespace RateNumber

variable {α : Type} [RateNumber α]

def lesser (x y : α) : α := if less y x then y else x

def greater (x y : α) : α := if less x y then y else x

/-- Seconds since 1970 in whole milliseconds. -/
def ofInstant (t : Instant) : α := ofInt t.millis / ofInt 1000

end RateNumber

/-- Binary floating-point numbers of 64 bits. -/
instance : RateNumber Float where
  ofInt := Float.ofInt
  tenths n := Float.ofScientific n true 1
  greatest := Float.ofBits 0x7FEFFFFFFFFFFFFF
  less x y := x < y
  floor := Float.floor
  cbrt := Decimal.cubeRoot
  isCost x := x.isFinite && !(x < 0.0)

/-- The duration of so many seconds, to the nearest nanosecond with a half to the even one.  What
does not fit is the longest duration. -/
def Duration.ofSeconds (x : Float) : Duration :=
  match Decimal.Dyadic.ofFloat? x with
  | none => .max
  | some d =>
    if d.negative && d.mantissa != 0 then .max
    else
      (Duration.ofNanos? (Decimal.roundHalfEven (d.ratio.1 * nanosPerSecond) d.ratio.2)).getD .max

end RequestSigning
