import RequestSigning.Time.Duration

/-!
# Exponential backoff

The wait behind a failed attempt doubles from attempt to attempt up to a cap.  With jitter it is
drawn from nothing up to that.
-/

namespace RequestSigning

/-- A source of jitter: for an attempt and the longest delay, a delay. -/
abbrev Jitter := Nat → Duration → Duration

structure Backoff where
  base : Duration
  cap : Duration
  jitter : Bool
  deriving DecidableEq

namespace Backoff

/-- A tenth of a second up to twenty seconds, with jitter. -/
def default : Backoff := ⟨⟨100000000, by decide⟩, ⟨20000000000, by decide⟩, true⟩

/-- The longest delay behind the given attempt, counted from one.  It no longer doubles after the
thirty-second. -/
def bound (b : Backoff) (attempt : Nat) : Duration :=
  match b.base.mul? (Nat.pow 2 (Nat.min (attempt - 1) 31)) with
  | some d => d.min b.cap
  | none => b.cap

def delay (b : Backoff) (draw : Jitter) (attempt : Nat) : Duration :=
  if b.jitter then (draw attempt (b.bound attempt)).min (b.bound attempt) else b.bound attempt

end Backoff

end RequestSigning
