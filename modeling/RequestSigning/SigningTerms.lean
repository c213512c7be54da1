import RequestSigning.Error
import RequestSigning.Time.Format

/-!
# Signing terms

Where and when a request is signed, and how long a presigned one is good for: at least a second
and at most seven days.
-/

namespace RequestSigning

structure SigningTerms where
  region : String
  service : String
  time : Instant
  /-- Encode the path once more. -/
  double : Bool
  expiration : Option Instant
  deriving DecidableEq

namespace SigningTerms

/-- Terms with a doubly encoded path and no expiration. -/
def new (region service : String) (time : Instant) : SigningTerms :=
  ⟨region, service, time, true, none⟩

/-- An expiration after a span of time; one beyond the last instant is the last instant. -/
def expiringAfter (t : SigningTerms) (d : Duration) : SigningTerms :=
  { t with expiration := some ((t.time.addSigned? d).getD .last) }

def scope (t : SigningTerms) : String :=
  t.time.compactDate ++ "/" ++ t.region ++ "/" ++ t.service ++ "/aws4_request"

def maxValidity : Int := 604800

def expiresTooLate (expiration : Instant) : Error :=
  .new .configInvalid
    ("Requests that are pre-signed by SigV4 algorithm are valid for at most 7 days. " ++
      "The expiration date set on the current request [" ++ expiration.rfc3339 ++
      "] has exceeded this limit.")

def expiresTooEarly (expiration time : Instant) : Error :=
  .new .configInvalid
    ("presign expiration [" ++ expiration.rfc3339 ++ "] must be later than the signing time [" ++
      time.rfc3339 ++ "]")

/-- The whole seconds that a presigned request is good for. -/
def validitySeconds (t : SigningTerms) : Except Error Int :=
  match t.expiration with
  | none => .ok maxValidity
  | some expiration =>
    let seconds := expiration.secondsSince t.time
    if maxValidity < seconds then .error (expiresTooLate expiration)
    else if seconds ≤ 0 then .error (expiresTooEarly expiration t.time)
    else .ok seconds

end SigningTerms

end RequestSigning
