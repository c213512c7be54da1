/-!
# Errors

An error has a kind, a message, the circumstances collected on its way up, and the text of what
caused it.  `retryable` says whether another attempt could succeed: throttling starts out so.
-/

namespace RequestSigning

namespace Error

/-- What went wrong, as far as a caller can react to it. -/
inductive Kind
  /-- Credentials are malformed. -/
  | credentialInvalid
  /-- The request cannot be signed. -/
  | requestInvalid
  /-- A setting is out of its range. -/
  | configInvalid
  /-- The service asked for fewer requests. -/
  | throttled
  /-- A wait ended before its time. -/
  | timeout
  /-- Anything else. -/
  | unexpected
  deriving DecidableEq, Repr

def Kind.text : Kind → String
  | .credentialInvalid => "invalid credentials"
  | .requestInvalid => "invalid request"
  | .configInvalid => "invalid configuration"
  | .throttled => "throttled"
  | .timeout => "timed out"
  | .unexpected => "unexpected error"

end Error

structure Error where
  kind : Error.Kind
  message : String
  context : List String
  retryable : Bool
  source : Option String
  deriving DecidableEq, Repr

namespace Error

def new (kind : Kind) (message : String) : Error :=
  ⟨kind, message, [], kind == .throttled, none⟩

/-- One more circumstance, after those already there. -/
def withContext (e : Error) (text : String) : Error := { e with context := e.context ++ [text] }

def withSource (e : Error) (text : String) : Error := { e with source := some text }

def setRetryable (e : Error) (retryable : Bool) : Error := { e with retryable := retryable }

def isThrottled (e : Error) : Bool := e.kind == .throttled

/-- A foreign failure that says nothing about the request. -/
def ofFailure (text : String) : Error := (new .unexpected text).withSource text

def ofFormatting : Error := ofFailure "an error occurred when formatting an argument"

/-- A foreign failure that blames the request. -/
def ofBadRequest (text : String) : Error := (new .requestInvalid text).withSource text

end Error

/-- How an operation can stop without a value: with an error to handle, or because a time left
the representable range, which nothing handles. -/
inductive Failure
  | error (e : Error)
  | timeOverflow
  deriving DecidableEq, Repr

end RequestSigning
