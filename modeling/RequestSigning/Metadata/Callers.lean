import RequestSigning.Metadata.Client

/-!
# Callers that share a client

Clones of a client share its cached token, and their calls for values overlap.  A caller holds the
lock only to look at the cache, to store a token and to drop one: between these, and while it waits
for an answer, the others go on.
-/

namespace RequestSigning.Metadata

open Http

/-- How far a caller is.  `idle` is between attempts, with the result of the last one; `loaded` is
before the request that carries the token, `asking` while that request is under way. -/
inductive Caller
  | idle (last : Option (Except Failure String))
  | renewing
  | loaded (token : String)
  | asking (token : String)

inductive Event
  | load (time : Instant)
  | renewed (outcome : Except Error Response) (time : Instant)
  | ask (path : String)
  | answered (outcome : Except Error Response)

structure Move where
  caller : Nat
  event : Event

structure Shared where
  token : Option SessionToken
  callers : Nat → Caller

/-- The cache and the caller after an event, if it can happen to such a caller. -/
def Caller.next (c : Client) (env : Environment) (cached : Option SessionToken) :
    Caller → Event → Option (Option SessionToken × Caller)
  | .idle _, .load time =>
    match fresh? cached time, tokenRequest (c.endpointText env) c.ttl with
    | some text, _ => some (cached, .loaded text)
    | none, .ok _ => some (cached, .renewing)
    | none, .error e => some (cached, .idle (some (.error (.error e))))
  | .renewing, .renewed outcome time =>
    match answer .token outcome, refreshTime? time c.ttl with
    | .error e, _ => some (cached, .idle (some (.error (.error e))))
    | .ok _, none => some (cached, .idle (some (.error .timeOverflow)))
    | .ok text, some refreshAt => some (some ⟨text, refreshAt⟩, .loaded text)
  | .loaded text, .ask path =>
    match valueRequest (c.endpointText env) path text with
    | .error e => some (cached, .idle (some (.error (.error e))))
    | .ok _ => some (cached, .asking text)
  | .asking _, .answered outcome =>
    some (keptToken cached outcome, .idle (some ((answer .value outcome).mapError .error)))
  | _, _ => none

namespace Shared

def start (cached : Option SessionToken) : Shared := ⟨cached, fun _ => .idle none⟩

def become (s : Shared) (i : Nat) (cached : Option SessionToken) (caller : Caller) : Shared :=
  ⟨cached, fun j => if j = i then caller else s.callers j⟩

/-- One move, where each caller has its own environment. -/
def step (c : Client) (env : Nat → Environment) (s : Shared) (m : Move) : Option Shared := do
  let next ← (s.callers m.caller).next c (env m.caller) s.token m.event
  return s.become m.caller next.1 next.2

/-- Moves of any of the callers, in the order in which they happen. -/
def run (c : Client) (env : Nat → Environment) (s : Shared) (moves : List Move) : Option Shared :=
  moves.foldlM (step c env) s

end Shared

end RequestSigning.Metadata
