import RequestSigning.Signing.Signature

/-!
# Signing profiles

A profile says how requests are signed for a service in a region.  `sign` puts the signature into
the `authorization` field, `presign` into the query.  Without an access key both leave the request
as it is.
-/

namespace RequestSigning

open Http

/-- Runs behind a signature; it may change the draft and its payload once more. -/
structure SignatureHook where
  run : Draft → Payload → Signature → SigningTerms → Except Error Unit × Draft × Payload

def SignatureHook.nothing : SignatureHook := ⟨fun draft payload _ _ => (.ok (), draft, payload)⟩

structure SigningProfile where
  service : String
  region : String
  /-- Encode the path once more. -/
  double : Bool
  rule : HashRule
  /-- The rule of presigned requests, where it is another one. -/
  presignRule : Option HashRule
  hook : SignatureHook
  /-- The time of every signature, where it is not the current one. -/
  time : Option Instant

namespace SigningProfile

/-- A profile that digests payloads and encodes paths twice. -/
def new (service region : String) : SigningProfile :=
  ⟨service, region, true, .sha256, none, .nothing, none⟩

def terms (p : SigningProfile) (now : Instant) (expiresIn : Option Duration) : SigningTerms :=
  let terms : SigningTerms :=
    { SigningTerms.new p.region p.service (p.time.getD now) with double := p.double }
  match expiresIn with
  | some d => terms.expiringAfter d
  | none => terms

/-- The value of a content hash field that asks for the hash in its place. -/
def hashRequired : String := "required"

def authorization (cred : Credential) (terms : SigningTerms) (c : CanonicalRequest)
    (signature : String) : String :=
  algorithm ++ " Credential=" ++ cred.accessKey ++ "/" ++ terms.scope ++ ", SignedHeaders=" ++
    c.signedText ++ ", Signature=" ++ signature

def setToken (cred : Credential) : Signing Unit :=
  match cred.sessionToken with
  | some token => Signing.setHeader .securityToken token true
  | none => pure ()

def setHost : Signing Unit := do
  let s ← get
  Signing.setHeader .host s.draft.hostText false

/-- Put the hash of the payload where a field asks for it. -/
def setHash (hash : String) : Signing Unit := do
  let s ← get
  if s.draft.headerText? .contentHash = some hashRequired then
    Signing.setHeader .contentHash hash false
  else pure ()

def canonical (hash : String) (terms : SigningTerms) : Signing CanonicalRequest := do
  let s ← get
  pure (.ofDraft s.draft hash terms.double)

def runHook (p : SigningProfile) (signature : Signature) (terms : SigningTerms) :
    Signing Unit := do
  let s ← get
  let done := p.hook.run s.draft s.payload signature terms
  set { s with
    draft := done.2.1
    payload := done.2.2
    calls := s.calls ++ [HookCall.mk signature s.payload terms] }
  Signing.ofExcept done.1

def signWith (p : SigningProfile) (cred : Credential) (terms : SigningTerms) : Signing Unit := do
  setToken cred
  setHost
  Signing.setHeader .date terms.time.compact false
  let hash ← Signing.hashPayload p.rule
  setHash hash
  let c ← canonical hash terms
  let signature ← Signing.signature c cred terms
  Signing.setHeader .authorization (authorization cred terms c signature.text) true
  p.runHook signature terms

def sign (p : SigningProfile) (cred : Credential) (terms : SigningTerms) : Signing Unit :=
  if cred.trimmed.isAnonymous then
    Signing.note [.debug "anonymous credential, skip signing"]
  else p.signWith cred.trimmed terms

/-- The query pairs that a presigned request has before its signature. -/
def presignPairs (cred : Credential) (terms : SigningTerms) (headers : Headers) (seconds : Int) :
    List (String × String) :=
  (cred.sessionToken.map fun token => ("X-Amz-Security-Token", token)).toList ++
    [("X-Amz-Algorithm", algorithm),
     ("X-Amz-Date", terms.time.compact),
     ("X-Amz-SignedHeaders", Canonical.signedText headers),
     ("X-Amz-Expires", toString seconds),
     ("X-Amz-Credential", cred.accessKey ++ "/" ++ terms.scope)]

def addPresignPairs (cred : Credential) (terms : SigningTerms) (seconds : Int) : Signing Unit := do
  let s ← get
  Signing.addPairs (presignPairs cred terms s.draft.headers seconds)

def presignWith (p : SigningProfile) (cred : Credential) (terms : SigningTerms) :
    Signing Unit := do
  let seconds ← Signing.ofExcept terms.validitySeconds
  setHost
  addPresignPairs cred terms seconds
  let hash ← Signing.hashPayload (p.presignRule.getD p.rule)
  let c ← canonical hash terms
  let signature ← Signing.signature c cred terms
  Signing.addPairs [("X-Amz-Signature", signature.text)]

def presign (p : SigningProfile) (cred : Credential) (terms : SigningTerms) : Signing Unit :=
  if cred.trimmed.isAnonymous then
    Signing.note [.debug "anonymous credential, skip presigning"]
  else p.presignWith cred.trimmed terms

def signEither (p : SigningProfile) (inQuery : Bool) (cred : Credential) (terms : SigningTerms) :
    Signing Unit :=
  if inQuery then p.presign cred terms else p.sign cred terms

end SigningProfile

end RequestSigning
