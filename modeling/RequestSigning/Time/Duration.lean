/-!
# Durations

Spans of time in whole nanoseconds, up to `2^64` seconds.  The bound is part of the type.
-/

namespace RequestSigning

abbrev nanosPerSecond : Nat := 1000000000

/-- The longest duration: `2^64 - 1` seconds and all but one nanosecond. -/
abbrev Duration.maxNanos : Nat := 18446744073709551615999999999

structure Duration where
  nanos : Nat
  le_max : nanos ≤ Duration.maxNanos
  deriving DecidableEq

namespace Duration

def zero : Duration := ⟨0, by decide⟩

def max : Duration := ⟨maxNanos, by decide⟩

instance : Inhabited Duration := ⟨zero⟩

/-- A duration of so many nanoseconds, if there is one. -/
def ofNanos? (n : Nat) : Option Duration :=
  if h : n ≤ maxNanos then some ⟨n, h⟩ else none

/-- A duration of so many nanoseconds, or the longest one. -/
def ofNanosClamped (n : Nat) : Duration := ⟨min n maxNanos, Nat.min_le_right _ _⟩

def seconds (d : Duration) : Nat := d.nanos / nanosPerSecond

def subsecond (d : Duration) : Nat := d.nanos % nanosPerSecond

def min (d e : Duration) : Duration := if d.nanos ≤ e.nanos then d else e

/-- What is left of `d` after `e`. -/
def sub (d e : Duration) : Duration :=
  ⟨d.nanos - e.nanos, Nat.le_trans (Nat.sub_le _ _) d.le_max⟩

/-- `n` times as long, if that is still a duration. -/
def mul? (d : Duration) (n : Nat) : Option Duration := ofNanos? (d.nanos * n)

/-- Whole milliseconds, a started one counted. -/
def ceilMillis (d : Duration) : Nat := (d.nanos + 999999) / 1000000

/-- The longest duration that a signed count of milliseconds can hold. -/
def maxSigned : Nat := 9223372036854775807000000

@[simp] theorem nanos_zero : zero.nanos = 0 := rfl

theorem nanos_min (d e : Duration) : (d.min e).nanos = Nat.min d.nanos e.nanos := by
  unfold min
  split
  · exact (Nat.min_eq_left ‹_›).symm
  · exact (Nat.min_eq_right (by omega)).symm

theorem mul?_eq_none_iff (d : Duration) (n : Nat) : d.mul? n = none ↔ maxNanos < d.nanos * n := by
  simp only [mul?, ofNanos?]
  split
  · simp; omega
  · simp; omega

theorem nanos_of_mul? {d e : Duration} {n : Nat} (product : d.mul? n = some e) :
    e.nanos = d.nanos * n := by
  unfold mul? ofNanos? at product
  split at product
  · cases product
    rfl
  · cases product

end Duration

end RequestSigning
