import RequestSigning.Http.Header
import RequestSigning.Http.Uri

/-!
# Requests and responses
-/

namespace RequestSigning.Http

/-- A request without its body. -/
structure Head where
  method : Method
  uri : Uri
  headers : Headers
  deriving DecidableEq

namespace Head

def initial : Head := ⟨.get, .root, .empty⟩

instance : Inhabited Head := ⟨initial⟩

/-- A head from the octets of its parts.  Of several faults the first counts, in the order method,
uri, fields. -/
def ofOctets? (method uri : Bytes) (fields : List (Bytes × Bytes)) : Except Fault Head := do
  let method ← Method.ofBytes? method
  let uri ← Uri.parse? uri
  let headers ← Headers.ofOctets? fields
  return ⟨method, uri, headers⟩

end Head

structure Request where
  head : Head
  body : Bytes
  deriving DecidableEq

/-- The status of a response: a number of three digits. -/
structure Status where
  code : Nat
  inRange : 100 ≤ code ∧ code ≤ 999
  deriving DecidableEq

namespace Status

def ofCode? (code : Nat) : Except Fault Status :=
  if h : 100 ≤ code ∧ code ≤ 999 then .ok ⟨code, h⟩ else .error .status

def isSuccess (s : Status) : Bool := 200 ≤ s.code && s.code < 300

def isServerError (s : Status) : Bool := 500 ≤ s.code && s.code < 600

/-- The registered reason for a status code. -/
def reason? : Nat → Option String
  | 100 => some "Continue"
  | 101 => some "Switching Protocols"
  | 102 => some "Processing"
  | 103 => some "Early Hints"
  | 200 => some "OK"
  | 201 => some "Created"
  | 202 => some "Accepted"
  | 203 => some "Non Authoritative Information"
  | 204 => some "No Content"
  | 205 => some "Reset Content"
  | 206 => some "Partial Content"
  | 207 => some "Multi-Status"
  | 208 => some "Already Reported"
  | 226 => some "IM Used"
  | 300 => some "Multiple Choices"
  | 301 => some "Moved Permanently"
  | 302 => some "Found"
  | 303 => some "See Other"
  | 304 => some "Not Modified"
  | 305 => some "Use Proxy"
  | 307 => some "Temporary Redirect"
  | 308 => some "Permanent Redirect"
  | 400 => some "Bad Request"
  | 401 => some "Unauthorized"
  | 402 => some "Payment Required"
  | 403 => some "Forbidden"
  | 404 => some "Not Found"
  | 405 => some "Method Not Allowed"
  | 406 => some "Not Acceptable"
  | 407 => some "Proxy Authentication Required"
  | 408 => some "Request Timeout"
  | 409 => some "Conflict"
  | 410 => some "Gone"
  | 411 => some "Length Required"
  | 412 => some "Precondition Failed"
  | 413 => some "Payload Too Large"
  | 414 => some "URI Too Long"
  | 415 => some "Unsupported Media Type"
  | 416 => some "Range Not Satisfiable"
  | 417 => some "Expectation Failed"
  | 418 => some "I\x27m a teapot"
  | 421 => some "Misdirected Request"
  | 422 => some "Unprocessable Entity"
  | 423 => some "Locked"
  | 424 => some "Failed Dependency"
  | 425 => some "Too Early"
  | 426 => some "Upgrade Required"
  | 428 => some "Precondition Required"
  | 429 => some "Too Many Requests"
  | 431 => some "Request Header Fields Too Large"
  | 451 => some "Unavailable For Legal Reasons"
  | 500 => some "Internal Server Error"
  | 501 => some "Not Implemented"
  | 502 => some "Bad Gateway"
  | 503 => some "Service Unavailable"
  | 504 => some "Gateway Timeout"
  | 505 => some "HTTP Version Not Supported"
  | 506 => some "Variant Also Negotiates"
  | 507 => some "Insufficient Storage"
  | 508 => some "Loop Detected"
  | 510 => some "Not Extended"
  | 511 => some "Network Authentication Required"
  | _ => none

def text (s : Status) : String :=
  toString s.code ++ " " ++ (reason? s.code).getD "<unknown status code>"

end Status

structure Response where
  status : Status
  headers : Headers
  body : Bytes
  deriving DecidableEq

/-- The body as text; ill-formed octets read as U+FFFD. -/
def Response.text (r : Response) : String := Utf8.decodeLossy r.body

end RequestSigning.Http
