/-!
# Log entries

What an operation reports while it runs, as data beside its result.
-/

namespace RequestSigning.Log

inductive Level
  | debug
  | warn
  deriving DecidableEq, Repr

def Level.text : Level → String
  | .debug => "debug"
  | .warn => "warn"

structure Entry where
  level : Level
  message : String
  deriving DecidableEq, Repr

/-- A message for whoever looks for a fault. -/
def Entry.debug (message : String) : Entry := ⟨.debug, message⟩

/-- A message about input that was ignored. -/
def Entry.warn (message : String) : Entry := ⟨.warn, message⟩

end RequestSigning.Log
