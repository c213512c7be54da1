import RequestSigning.Metadata.Token

/-!
# Answers of the metadata service

An answer is a nonempty body with a status of success.  Throttling, server errors and failed
transport are worth another attempt.
-/

namespace RequestSigning.Metadata

open Http

inductive Operation
  | token
  | value
  deriving DecidableEq, Repr

def Operation.text : Operation → String
  | .token => "fetch_imds_token"
  | .value => "fetch_metadata"

def unreachable (op : Operation) (cause : Error) : Error :=
  ((((Error.new .unexpected "failed to connect to IMDS").withSource cause.message).withContext
    ("operation: " ++ op.text)).withContext
    "hint: check if running on EC2 instance").setRetryable true

def refused (op : Operation) (status : Status) (body : String) : Error :=
  let message := "IMDS request " ++ op.text ++ " failed with status " ++ status.text
  let e :=
    if status.code = 429 then Error.new .throttled message
    else (Error.new .unexpected message).setRetryable status.isServerError
  let e := e.withContext ("status: " ++ toString status.code)
  if body = "" then e else e.withContext ("response: " ++ body)

def emptyBody (op : Operation) (status : Status) : Error :=
  (Error.new .unexpected ("IMDS returned an empty body with status " ++ status.text)).withContext
    ("operation: " ++ op.text)

def body (op : Operation) (r : Response) : Except Error String :=
  if r.status.isSuccess then
    if r.text = "" then .error (emptyBody op r.status) else .ok r.text
  else .error (refused op r.status r.text)

def answer (op : Operation) : Except Error Response → Except Error String
  | .ok r => body op r
  | .error e => .error (unreachable op e)

def isUnauthorized : Except Error Response → Bool
  | .ok r => r.status.code == 401
  | .error _ => false

/-- The token that stays cached after a request for a value. -/
def keptToken (cached : Option SessionToken) (outcome : Except Error Response) :
    Option SessionToken :=
  if isUnauthorized outcome then none else cached

end RequestSigning.Metadata
