import RequestSigning.Text.Blank
import RequestSigning.Text.Redact
import RequestSigning.Time.Format

/-!
# Credentials

An access key with its secret, perhaps a session token and an end of validity.  Keys are used
without the blanks around them; without an access key nothing is signed.
-/

namespace RequestSigning

structure Credential where
  accessKey : String
  secretKey : String
  sessionToken : Option String
  expires : Option Instant
  deriving DecidableEq

namespace Credential

/-- A credential that signs nothing. -/
def none : Credential := ⟨"", "", .none, .none⟩

instance : Inhabited Credential := ⟨none⟩

def ofKeys (accessKey secretKey : String) : Credential := ⟨accessKey, secretKey, .none, .none⟩

/-- Without an access key requests pass unsigned. -/
def isAnonymous (c : Credential) : Bool := c.accessKey == ""

def isPadded (s : String) : Bool := (Text.trim s).length != s.length

def needsTrim (c : Credential) : Bool :=
  isPadded c.accessKey || isPadded c.secretKey || c.sessionToken.any isPadded

/-- The credential without blanks around its keys and its token. -/
def trimmed (c : Credential) : Credential :=
  if c.needsTrim then
    { c with
      accessKey := Text.trim c.accessKey
      secretKey := Text.trim c.secretKey
      sessionToken := c.sessionToken.map Text.trim }
  else c

/-- How long before its end a credential is no longer used: two minutes. -/
def validityMargin : Duration := ⟨120000000000, by decide⟩

def isUsable (c : Credential) (now : Instant) : Bool :=
  if c.accessKey = "" ∨ c.secretKey = "" then false
  else
    match c.expires with
    | .none => true
    | some t => (now.add? validityMargin).any fun u => u.before t

def redacted (c : Credential) : String :=
  "Credential \x7b access_key_id: " ++ Text.redact c.accessKey ++
    ", secret_access_key: " ++ Text.redact c.secretKey ++
    ", session_token: " ++ Text.redact (c.sessionToken.getD "") ++
    ", expires_in: " ++ (c.expires.elim "None" fun t => "Some(" ++ t.precise ++ ")") ++ " \x7d"

end Credential

end RequestSigning
