import RequestSigning.Time.Instant

/-!
# Clocks that are set by hand

Such a clock shows the same instant until it is advanced or set, so that what depends on the time
can be run at any time.  `set` goes backwards as well as forwards.
-/

namespace RequestSigning

/-- A clock that stands still until it is moved. -/
structure HandClock where
  now : Instant
  deriving DecidableEq

namespace HandClock

/-- The longest step: what a signed count of milliseconds can hold. -/
def longestStep : Duration := ⟨Duration.maxSigned, by decide⟩

/-- Move the clock forward, if it stays in range. -/
def advance? (c : HandClock) (d : Duration) : Option HandClock :=
  (c.now.add? (d.min longestStep)).map fun t => ⟨t⟩

def set (_ : HandClock) (t : Instant) : HandClock := ⟨t⟩

end HandClock

end RequestSigning
