import RequestSigning.Signing.Profile

/-!
# Signing request heads

The draft is taken out of a head, signed and restored, also where the signature fails.
-/

namespace RequestSigning

open Http

structure SignedHead where
  result : Except Error Unit
  head : Head
  payload : Payload
  cache : KeyCache
  log : List Log.Entry
  calls : List HookCall

namespace SigningProfile

/-- Restore a draft.  A draft that cannot be restored counts for more than a failed signature. -/
def giveBack (result : Except Error Unit) (s : Session) (left : Head) : SignedHead :=
  let restored := s.draft.restore left
  let result := match restored.1 with
    | .error e => .error e
    | .ok () => result
  ⟨result, restored.2, s.payload, s.cache, s.log, s.calls⟩

/-- Sign a head with its payload; without a credential the draft is only taken and restored. -/
def signHead (p : SigningProfile) (inQuery : Bool) (head : Head) (payload : Payload)
    (cred : Option Credential) (terms : SigningTerms) (cache : KeyCache) : SignedHead :=
  match Draft.take head with
  | (.error e, left) => ⟨.error e, left, payload, cache, [], []⟩
  | (.ok draft, left) =>
    let start : Session := ⟨draft, payload, cache, [], []⟩
    match cred with
    | none => giveBack (.ok ()) start left
    | some cred =>
      let done := (p.signEither inQuery cred terms).perform start
      giveBack done.1 done.2 left

/-- The payload of a head whose body is not at hand: the hash that it names, or none. -/
def declaredPayload (headers : Headers) : Payload :=
  match headers.text? .contentHash with
  | some hash => if hash = hashRequired then .unsigned else .precomputed hash
  | none => .unsigned

/-- The marker of an unsigned payload as a field value. -/
def unsignedValue : HeaderValue := ⟨Utf8.encode Payload.unsignedMarker, false, by decide⟩

/-- Fields that name no hash say that the payload is not signed. -/
def declareUnsigned (headers : Headers) : Headers :=
  if headers.contains .contentHash then headers else headers.insert .contentHash unsignedValue

/-- Sign a head at `now`: in the query if the signature is to end after a while, else in the
fields. -/
def signAt (p : SigningProfile) (now : Instant) (head : Head) (cred : Option Credential)
    (expiresIn : Option Duration) (cache : KeyCache) : SignedHead :=
  let payload := declaredPayload head.headers
  let head :=
    if expiresIn.isSome then head else { head with headers := declareUnsigned head.headers }
  p.signHead expiresIn.isSome head payload cred (p.terms now expiresIn) cache

end SigningProfile

end RequestSigning
