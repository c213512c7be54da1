import RequestSigning.Encoding.Form
import RequestSigning.Http.Message

/-!
# Drafts

A draft is a request while it is being signed.  `take` gets it out of a request head, `restore`
puts it back.  Its query is a list of decoded pairs, which `queryText` writes again.
-/

namespace RequestSigning

open Http

/-- A request that is being signed: path as in the uri, query decoded. -/
structure Draft where
  method : Method
  scheme : Scheme
  authority : Authority
  path : String
  query : List (String × String)
  headers : Headers
  deriving DecidableEq

namespace Draft

/-- A uri that names no server cannot be signed for. -/
def missingAuthority : Error :=
  .new .requestInvalid "request without authority is invalid for signing"

def ofUri (head : Head) (authority : Authority) : Draft :=
  let target := head.uri.target?.getD .root
  { method := head.method
    scheme := head.uri.scheme?.getD .http
    authority := authority
    path := target.path
    query := (target.query.map fun q => Form.parse (Utf8.encode q)).getD []
    headers := head.headers }

/-- Take uri and header fields out of a head, and leave the rest of it.  The uri is gone even
where it names no server. -/
def take (head : Head) : Except Error Draft × Head :=
  match head.uri.authority? with
  | none => (.error missingAuthority, { head with uri := .root })
  | some authority => (.ok (ofUri head authority), { head with uri := .root, headers := .empty })

/-- A key and a value, or the key alone where the value is empty. -/
def pairText (pair : String × String) : String :=
  let key := Percent.encode Percent.isUnreserved pair.1
  if pair.2 = "" then key else key ++ "=" ++ Percent.encode Percent.isUnreserved pair.2

def queryText (d : Draft) : String := "&".intercalate (d.query.map pairText)

def targetText (d : Draft) : String :=
  if d.queryText = "" then d.path else d.path ++ "?" ++ d.queryText

/-- Put the draft back into the head it was taken from.  Method and header fields are back even
where path and query form no uri. -/
def restore (d : Draft) (head : Head) : Except Error Unit × Head :=
  let head := { head with method := d.method, headers := d.headers, uri := .root }
  match Target.parse? (Utf8.encode d.targetText) with
  | .error fault => (.error fault.toError, head)
  | .ok target => (.ok (), { head with uri := .absolute d.scheme d.authority target })

/-- The path with every `%XX` read; ill-formed octets read as U+FFFD. -/
def decodedPath (d : Draft) : String :=
  Utf8.decodeLossy (Percent.decode (Utf8.encode d.path))

def addPairs (d : Draft) (pairs : List (String × String)) : Draft :=
  { d with query := d.query ++ pairs }

def queryValue? (d : Draft) (key : String) : Option String :=
  (d.query.find? (·.1 = key)).map (·.2)

/-- The host, and the port where it differs from the one that the scheme implies. -/
def hostOctets (d : Draft) : Bytes :=
  match d.authority.port? with
  | some port =>
    if d.scheme.defaultPort? = some port then d.authority.host
    else d.authority.host ++ 0x3A :: Utf8.encode (toString port)
  | none => d.authority.host

def hostText (d : Draft) : String := Ascii.text d.hostOctets

def unwritable (name : HeaderName) (fault : Fault) : Error :=
  (Error.new .requestInvalid ("header " ++ name.text ++ " has an invalid value")).withSource
    fault.message

def setHeader (d : Draft) (name : HeaderName) (value : String) (sensitive : Bool) :
    Except Error Draft :=
  match HeaderValue.ofText? value sensitive with
  | .ok v => .ok { d with headers := d.headers.insert name v }
  | .error fault => .error (unwritable name fault)

/-- The first value of a header field, if it is visible ASCII. -/
def headerText? (d : Draft) (name : HeaderName) : Option String := d.headers.text? name

end Draft

end RequestSigning
