import RequestSigning.Signing.Session

/-!
# Signatures

The string to sign names algorithm, time and scope and holds the digest of the canonical request.
Its keyed digest is the signature.
-/

namespace RequestSigning

def algorithm : String := "AWS4-HMAC-SHA256"

def stringToSign (c : CanonicalRequest) (terms : SigningTerms) : String :=
  algorithm ++ "\n" ++ terms.time.compact ++ "\n" ++ terms.scope ++ "\n" ++ hexSha256 c.toBytes

/-- The signature under a key. -/
def Signature.of (key : Bytes) (c : CanonicalRequest) (terms : SigningTerms) : Signature :=
  ⟨Hmac.hex key (Utf8.encode (stringToSign c terms)), key⟩

def Signing.signature (c : CanonicalRequest) (cred : Credential) (terms : SigningTerms) :
    Signing Signature := do
  note [.debug ("calculated canonical request: " ++ c.text)]
  note [.debug ("calculated string to sign: " ++ stringToSign c terms)]
  let key ← signingKey cred terms
  pure (.of key c terms)

end RequestSigning
