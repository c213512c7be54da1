import RequestSigning.Canonical.Fields
import RequestSigning.Canonical.Target
import RequestSigning.Draft

/-!
# Canonical requests

The six parts of a request that a signature covers, as the octets that are digested and as text
for the log.
-/

namespace RequestSigning

open Http

/-- What a signature covers. -/
structure CanonicalRequest where
  method : Method
  path : String
  query : String
  fields : List (HeaderName × Bytes)
  names : List HeaderName
  contentHash : String
  deriving DecidableEq

namespace CanonicalRequest

def ofDraft (d : Draft) (contentHash : String) (double : Bool) : CanonicalRequest where
  method := d.method
  path := Canonical.path d.path double
  query := Canonical.query d.query
  fields := Canonical.fields d.headers
  names := Canonical.signedNames d.headers
  contentHash := contentHash

def signedText (c : CanonicalRequest) : String := ";".intercalate (c.names.map HeaderName.text)

/-- The octets that are digested; field values stand as they are sent. -/
def toBytes (c : CanonicalRequest) : Bytes :=
  c.method.octets ++ 0x0A :: (Utf8.encode c.path ++ 0x0A :: (Utf8.encode c.query ++ 0x0A ::
    (c.fields.flatMap (fun f => f.1.octets ++ 0x3A :: f.2 ++ [0x0A]) ++ 0x0A ::
      (Utf8.encode c.signedText ++ 0x0A :: Utf8.encode c.contentHash))))

def text (c : CanonicalRequest) : String :=
  c.method.text ++ "\n" ++ c.path ++ "\n" ++ c.query ++ "\n" ++
    String.join (c.fields.map fun f => f.1.text ++ ":" ++ Utf8.decodeLossy f.2 ++ "\n") ++ "\n" ++
    c.signedText ++ "\n" ++ c.contentHash

end CanonicalRequest

end RequestSigning
