import RequestSigning.Error
import RequestSigning.Time.Duration

/-!
# Waiting

Time runs in whole milliseconds.  A wait ends when its timer goes off, unless a deadline or a
cancellation comes earlier.  The timers are those of the runtime; `timerEnd` is exact.
-/

namespace RequestSigning

/-- When a timer goes off that is set at some time for so long. -/
abbrev Timer := (now : Nat) → Duration → Nat

/-- The first whole millisecond not before the end of a wait. -/
def timerEnd : Timer := fun now d => now + d.ceilMillis

inductive Interruption
  | deadline
  | cancelled
  deriving DecidableEq, Repr

def Interruption.toError : Interruption → Error
  | .deadline => .new .timeout "retry deadline exceeded while waiting"
  | .cancelled => .new .timeout "retry was cancelled while waiting"

/-- What ends a wait: its timer, or earlier a deadline or a cancellation, in milliseconds, if there
is one. -/
structure Limits where
  deadline : Option Nat
  cancellation : Option Nat
  timer : Timer

/-- The earlier of a known end and a limit, the known end first of two at once. -/
def earlier (found : Nat × Option Interruption) (limit : Option Nat) (now : Nat)
    (kind : Interruption) : Nat × Option Interruption :=
  match limit with
  | some t => if max now t < found.1 then (max now t, some kind) else found
  | none => found

/-- Wait from `now` on: when the wait ends, and what interrupted it. -/
def Limits.wait (l : Limits) (now : Nat) (d : Duration) : Nat × Option Interruption :=
  let whole := (l.timer now d, none)
  earlier (earlier whole l.deadline now .deadline) l.cancellation now .cancelled

end RequestSigning
