import RequestSigning.Hash.Hmac
import RequestSigning.Text.Utf8
import RequestSigning.Time.Format

/-!
# Signing keys

A signing key is the secret narrowed step by step to a day, a region and a service.
-/

namespace RequestSigning

/-- A keyed digest of a text under the key so far. -/
def narrow (key : Bytes) (s : String) : Bytes := Hmac.digest key (Utf8.encode s)

/-- The signing key of a day, a region and a service. -/
def signingKey (secret : String) (time : Instant) (region service : String) : Bytes :=
  ["aws4_request"].foldl narrow
    ([time.compactDate, region, service].foldl narrow (Utf8.encode ("AWS4" ++ secret)))

end RequestSigning
