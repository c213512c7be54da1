import RequestSigning.Http.Transport
import RequestSigning.Time.Format

/-!
# Session tokens of the metadata service

A token is asked for with a lifetime and used until ten minutes before its end.
-/

namespace RequestSigning.Metadata

open Http

structure SessionToken where
  text : String
  refreshAt : Instant
  deriving DecidableEq

def refreshWindow : Duration := ⟨600000000000, by decide⟩

/-- The lifetime that is asked for where none is set: six hours. -/
def defaultTtl : Duration := ⟨21600000000000, by decide⟩

/-- When a token received at `now` is to be replaced, if that can be represented.  A lifetime that
no signed count of milliseconds can hold counts as nothing. -/
def refreshTime? (now : Instant) (ttl : Duration) : Option Instant :=
  let rest := ttl.sub (refreshWindow.min ttl)
  if rest.nanos ≤ Duration.maxSigned then now.add? rest else some now

/-- The cached token, if it need not be replaced at `now`. -/
def fresh? (cached : Option SessionToken) (now : Instant) : Option String :=
  (cached.filter fun t => now.before t.refreshAt).map (·.text)

def dropTrailingSlashes (s : String) : String :=
  String.ofList (s.toList.reverse.dropWhile (· = '/')).reverse

def dropLeadingSlashes (s : String) : String := String.ofList (s.toList.dropWhile (· = '/'))

def tokenUrl (endpoint : String) : String := endpoint ++ "/latest/api/token"

def valueUrl (endpoint path : String) : String := endpoint ++ "/" ++ dropLeadingSlashes path

def unwritable (what url : String) (fault : Fault) : Error :=
  ((Error.new .requestInvalid ("failed to build IMDS " ++ what ++ " request")).withSource
    fault.message).withContext ("url: " ++ url)

def request? (method : Method) (url : String) (fields : List (HeaderName × String)) :
    Except Fault Request := do
  let uri ← Uri.parse? (Utf8.encode url)
  let headers ← fields.foldlM (fun (h : Headers) field => do
    let value ← HeaderValue.ofText? field.2 false
    return h.append field.1 value) Headers.empty
  return ⟨⟨method, uri, headers⟩, []⟩

def tokenRequest (endpoint : String) (ttl : Duration) : Except Error Request :=
  (request? .put (tokenUrl endpoint)
    [(.contentLength, "0"), (.metadataTokenTtl, toString ttl.seconds)]).mapError
      (unwritable "token" (tokenUrl endpoint))

def valueRequest (endpoint path token : String) : Except Error Request :=
  (request? .get (valueUrl endpoint path) [(.metadataToken, token)]).mapError
    (unwritable "metadata" (valueUrl endpoint path))

end RequestSigning.Metadata
