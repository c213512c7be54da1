import RequestSigning.Error

/-!
# Malformed parts of messages

Each way in which a part of an HTTP message can be refused, with its text.
-/

namespace RequestSigning.Http

/-- Why a part of a message is refused. -/
inductive Fault
  | method
  | headerName
  | headerValue
  | headerText
  | status
  | uriEmpty
  | uriTooLong
  | uriChar
  | uriFormat
  | pathStart
  | authority
  | scheme
  | schemeTooLong
  | schemeMissing
  | authorityMissing
  | pathMissing
  deriving DecidableEq, Repr

def Fault.message : Fault → String
  | .method => "invalid HTTP method"
  | .headerName => "invalid HTTP header name"
  | .headerValue => "failed to parse header value"
  | .headerText => "failed to convert header to a str"
  | .status => "invalid status code"
  | .uriEmpty => "empty string"
  | .uriTooLong => "uri too long"
  | .uriChar => "invalid uri character"
  | .uriFormat => "invalid format"
  | .pathStart => "path does not start with slash"
  | .authority => "invalid authority"
  | .scheme => "invalid scheme"
  | .schemeTooLong => "scheme too long"
  | .schemeMissing => "scheme missing"
  | .authorityMissing => "authority missing"
  | .pathMissing => "path missing"

/-- A refused part makes the request invalid. -/
def Fault.toError (f : Fault) : Error := Error.ofBadRequest f.message

end RequestSigning.Http
