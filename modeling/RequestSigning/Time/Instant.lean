import RequestSigning.Time.Duration

/-!
# Instants

Points of UTC as seconds since 1970 and nanoseconds.  A leap second is the second before it with
a thousand million nanoseconds more.  The range of the type is that of the calendar years
-262143 to 262142.
-/

namespace RequestSigning

namespace Instant

abbrev minSeconds : Int := -8334601228800

abbrev maxSeconds : Int := 8210266876799

abbrev secondsPerDay : Int := 86400

end Instant

structure Instant where
  seconds : Int
  nanos : Nat
  inRange : Instant.minSeconds ≤ seconds ∧ seconds ≤ Instant.maxSeconds ∧ nanos < 2000000000
  deriving DecidableEq

namespace Instant

def epoch : Instant := ⟨0, 0, by decide⟩

instance : Inhabited Instant := ⟨epoch⟩

/-- The last representable instant that is not in a leap second. -/
def last : Instant := ⟨maxSeconds, 999999999, by decide⟩

def ofFields? (seconds : Int) (nanos : Nat) : Option Instant :=
  if h : minSeconds ≤ seconds ∧ seconds ≤ maxSeconds ∧ nanos < 2000000000 then
    some ⟨seconds, nanos, h⟩
  else none

def isLeap (t : Instant) : Bool := nanosPerSecond ≤ t.nanos

/-- Earlier than, by seconds and then nanoseconds. -/
def before (t u : Instant) : Bool :=
  t.seconds < u.seconds || (t.seconds == u.seconds && t.nanos < u.nanos)

/-- Whole days since 1970-01-01, rounded down. -/
def days (t : Instant) : Int := t.seconds / secondsPerDay

def secondOfDay (t : Instant) : Int := t.seconds % secondsPerDay

/-- Whole milliseconds since 1970-01-01, rounded down. -/
def millis (t : Instant) : Int := t.seconds * 1000 + (t.nanos / 1000000 : Nat)

/-- The instant `d` later, if there is one.  A span that leaves a leap second counts it as part
of the second before. -/
def add? (t : Instant) (d : Duration) : Option Instant :=
  let inLeap := t.isLeap && d.seconds == 0 && t.nanos + d.subsecond < 2 * nanosPerSecond
  if inLeap then ofFields? t.seconds (t.nanos + d.subsecond)
  else
    let nanos := (if t.isLeap then t.nanos - nanosPerSecond else t.nanos) + d.subsecond
    ofFields? (t.seconds + d.seconds + (nanos / nanosPerSecond : Nat)) (nanos % nanosPerSecond)

/-- As `add?`, for spans that a signed count of milliseconds can hold. -/
def addSigned? (t : Instant) (d : Duration) : Option Instant :=
  if d.nanos ≤ Duration.maxSigned then t.add? d else none

/-- Nanoseconds from `u` to `t`.  A leap second between the two times of day counts. -/
def nanosSince (t u : Instant) : Int :=
  let clock := t.secondOfDay - u.secondOfDay
  let leap : Int :=
    if u.secondOfDay < t.secondOfDay ∧ u.isLeap then 1
    else if t.secondOfDay < u.secondOfDay ∧ t.isLeap then -1
    else 0
  ((t.days - u.days) * secondsPerDay + clock + leap) * nanosPerSecond + (t.nanos - u.nanos : Int)

def secondsSince (t u : Instant) : Int := (t.nanosSince u).tdiv nanosPerSecond

end Instant

end RequestSigning
