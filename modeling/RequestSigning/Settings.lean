import RequestSigning.Credential
import RequestSigning.Environment
import RequestSigning.Retry.Policy
import RequestSigning.SigningTerms
import RequestSigning.Text.Ascii

/-!
# Settings

Settings that are given, and filled in from the environment where they are not.
-/

namespace RequestSigning

structure Settings where
  region : Option String
  accessKey : Option String
  secretKey : Option String
  sessionToken : Option String
  metadataEndpoint : Option String
  metadataDisabled : Bool
  maxAttempts : Nat

namespace Settings

/-- Nothing set, and four attempts. -/
def initial : Settings := ⟨none, none, none, none, none, false, 4⟩

/-- A number of attempts: positive, in 32 bits. -/
def attempts? (s : String) : Option Nat :=
  (Ascii.unsigned? (Nat.pow 2 32) (Utf8.encode s)).filter (0 < ·)

def ignoredEntry (s : String) : Log.Entry := .warn ("ignore invalid AWS_MAX_ATTEMPTS: " ++ s)

/-- Fill in from the environment.  The number of attempts is taken from there even where one is
set, and the metadata service can only be disabled. -/
def withEnvironment (s : Settings) (env : Environment) : Settings × List Log.Entry :=
  let filled : Settings := { s with
    region := s.region <|> env.get? "AWS_REGION"
    accessKey := s.accessKey <|> env.get? "AWS_ACCESS_KEY_ID"
    secretKey := s.secretKey <|> env.get? "AWS_SECRET_ACCESS_KEY"
    sessionToken := s.sessionToken <|> env.get? "AWS_SESSION_TOKEN"
    metadataEndpoint := s.metadataEndpoint <|> env.get? "AWS_EC2_METADATA_SERVICE_ENDPOINT"
    metadataDisabled := s.metadataDisabled || env.get? "AWS_EC2_METADATA_DISABLED" == some "true" }
  match env.get? "AWS_MAX_ATTEMPTS" with
  | none => (filled, [])
  | some text =>
    match attempts? text with
    | some n => ({ filled with maxAttempts := n }, [])
    | none => (filled, [ignoredEntry text])

def credential (s : Settings) : Option Credential :=
  match s.accessKey, s.secretKey with
  | some accessKey, some secretKey => some ⟨accessKey, secretKey, s.sessionToken, none⟩
  | _, _ => none

def missingRegion : Error :=
  (Error.new .configInvalid "region is required to sign requests").withContext
    "hint: set AWS_REGION"

def terms (s : Settings) (service : String) (time : Instant) : Except Error SigningTerms :=
  match s.region with
  | some region => .ok (.new region service time)
  | none => .error missingRegion

/-- The number of attempts that is set, each admitted by a limiter that starts at `now`. -/
def policy (s : Settings) (now : Instant) : Policy :=
  { Policy.default.withMaxAttempts s.maxAttempts with
    limiter := some (Limiter.new (RateNumber.ofInstant now)) }

end Settings

end RequestSigning
