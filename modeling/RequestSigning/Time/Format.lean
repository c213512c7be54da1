import RequestSigning.Decimal.Fixed
import RequestSigning.Time.Civil
import RequestSigning.Time.Instant

/-!
# Written dates and times

The compact forms of request signatures (`20130524`, `20130524T000000Z`) and the two separated
forms of messages.
-/

namespace RequestSigning

namespace Civil

/-- Four digits for the years 0 to 9999; any other year has a sign and at least four digits. -/
def yearText (year : Int) : String :=
  if 0 ≤ year ∧ year ≤ 9999 then Decimal.padded 4 year.toNat
  else (if year < 0 then "-" else "+") ++ Decimal.padded 4 year.natAbs

end Civil

namespace Instant

def date (t : Instant) : Civil.Date := Civil.ofDays t.days

/-- Hour, minute and second of the day.  The second of a leap second is the next number. -/
def clock (t : Instant) : Nat × Nat × Nat :=
  let s := t.secondOfDay.toNat
  (s / 3600, s / 60 % 60, s % 60 + t.nanos / nanosPerSecond)

def twoDigits (n : Nat) : String := Decimal.padded 2 n

/-- As in `20130524`. -/
def compactDate (t : Instant) : String :=
  Civil.yearText t.date.year ++ twoDigits t.date.month ++ twoDigits t.date.day

/-- As in `20130524T000000Z`. -/
def compact (t : Instant) : String :=
  t.compactDate ++ "T" ++ twoDigits t.clock.1 ++ twoDigits t.clock.2.1 ++
    twoDigits t.clock.2.2 ++ "Z"

/-- As in `2013-05-24`. -/
def dashedDate (t : Instant) : String :=
  Civil.yearText t.date.year ++ "-" ++ twoDigits t.date.month ++ "-" ++ twoDigits t.date.day

/-- As in `07:20:04`. -/
def clockText (t : Instant) : String :=
  twoDigits t.clock.1 ++ ":" ++ twoDigits t.clock.2.1 ++ ":" ++ twoDigits t.clock.2.2

/-- As in `2022-03-13T07:20:04Z`, without any fraction. -/
def rfc3339 (t : Instant) : String := t.dashedDate ++ "T" ++ t.clockText ++ "Z"

/-- The fraction of the second in the fewest groups of three digits, none for a whole second. -/
def fractionText (t : Instant) : String :=
  let n := t.nanos % nanosPerSecond
  if n = 0 then ""
  else if n % 1000000 = 0 then "." ++ Decimal.padded 3 (n / 1000000)
  else if n % 1000 = 0 then "." ++ Decimal.padded 6 (n / 1000)
  else "." ++ Decimal.padded 9 n

/-- As in `2024-01-01 05:50:00.500 UTC`. -/
def spaced (t : Instant) : String :=
  t.dashedDate ++ " " ++ t.clockText ++ t.fractionText ++ " UTC"

/-- As in `2001-09-09T01:46:40.500Z`. -/
def precise (t : Instant) : String :=
  t.dashedDate ++ "T" ++ t.clockText ++ t.fractionText ++ "Z"

end Instant

namespace Duration

/-- `n` of a unit that has `10^places` nanoseconds, a fraction without trailing zeros. -/
def inUnit (nanos places : Nat) (unit : String) : String :=
  let digits := (Decimal.padded places (nanos % Nat.pow 10 places)).toList
  let fraction := (digits.reverse.dropWhile (· = '0')).reverse
  let point := if places = 0 ∨ fraction = [] then "" else "." ++ String.ofList fraction
  toString (nanos / Nat.pow 10 places) ++ point ++ unit

/-- The duration in the largest of seconds, milliseconds, microseconds and nanoseconds of which
it has a whole one, as in `1.5ms`. -/
def text (d : Duration) : String :=
  if 1000000000 ≤ d.nanos then inUnit d.nanos 9 "s"
  else if 1000000 ≤ d.nanos then inUnit d.nanos 6 "ms"
  else if 1000 ≤ d.nanos then inUnit d.nanos 3 "µs"
  else inUnit d.nanos 0 "ns"

end Duration

end RequestSigning
