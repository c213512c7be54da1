import RequestSigning.Proofs.Canonical.Fields
import RequestSigning.Proofs.Signing.Steps

/-!
# Signatures in the query

`presignWith_ok_iff` says when a signature in the query succeeds and what session it leaves.  Only
the last pair is not signed: without it the draft is the one that the signature was made from.
-/

namespace RequestSigning

open Http

namespace SigningProfile

/-- The rule that presigned requests are hashed by. -/
def queryRule (p : SigningProfile) : HashRule := p.presignRule.getD p.rule

/-- The draft that is signed, when `hosted` are its fields. -/
def beforeSignature (d : Draft) (cred : Credential) (terms : SigningTerms) (seconds : Int)
    (hosted : Headers) : Draft :=
  Draft.addPairs { d with headers := hosted } (presignPairs cred terms hosted seconds)

/-- The session behind a signature in the query. -/
def behindQuery (p : SigningProfile) (cred : Credential) (terms : SigningTerms) (hash : String)
    (seconds : Int) (s : Session) (hosted : Headers) : Session :=
  let d := beforeSignature s.draft cred terms seconds hosted
  let c := CanonicalRequest.ofDraft d hash terms.double
  { s.afterSignature c cred terms with
    draft := d.addPairs [("X-Amz-Signature", (Signature.of (s.key cred terms) c terms).text)]
    payload := (p.queryRule.hash s.draft s.payload).2.2 }

theorem perform_addPresignPairs (cred : Credential) (terms : SigningTerms) (seconds : Int)
    (s : Session) :
    (addPresignPairs cred terms seconds).perform s =
      (.ok (), { s with
        draft := s.draft.addPairs (presignPairs cred terms s.draft.headers seconds) }) := rfl

/-- What comes before a signature in the query: the canonical request that it is made from. -/
def prepareQuery (p : SigningProfile) (cred : Credential) (terms : SigningTerms) :
    Signing CanonicalRequest := do
  let seconds ← Signing.ofExcept terms.validitySeconds
  setHost
  addPresignPairs cred terms seconds
  let hash ← Signing.hashPayload p.queryRule
  canonical hash terms

theorem presignWith_eq_prepareQuery (p : SigningProfile) (cred : Credential)
    (terms : SigningTerms) :
    p.presignWith cred terms = (do
      let c ← p.prepareQuery cred terms
      let signature ← Signing.signature c cred terms
      Signing.addPairs [("X-Amz-Signature", signature.text)]) := by
  simp only [presignWith, prepareQuery, queryRule, bind_assoc]

theorem prepareQuery_ok_iff {p : SigningProfile} {cred : Credential} {terms : SigningTerms}
    {s t : Session} {c : CanonicalRequest} (builtin : p.queryRule.IsBuiltin) :
    (p.prepareQuery cred terms).perform s = (.ok c, t) ↔
      ∃ hash seconds hosted, (p.queryRule.hash s.draft s.payload).1 = .ok hash ∧
        terms.validitySeconds = .ok seconds ∧
        s.draft.headers.SetTo .host (some s.draft.hostText) false hosted ∧
        c = .ofDraft (beforeSignature s.draft cred terms seconds hosted) hash terms.double ∧
        t = { s with
          draft := beforeSignature s.draft cred terms seconds hosted
          payload := (p.queryRule.hash s.draft s.payload).2.2 } := by
  constructor
  · intro run
    obtain ⟨seconds, _, valid, run⟩ := Signing.bind_ok_iff.mp run
    rw [Signing.perform_ofExcept, Prod.mk.injEq] at valid
    obtain ⟨valid, rfl⟩ := valid
    obtain ⟨_, _, host, run⟩ := Signing.bind_ok_iff.mp run
    obtain ⟨hosted, hostSet, rfl⟩ := setHost_ok_iff.mp host
    rw [Signing.perform_bind_of_ok (perform_addPresignPairs _ _ _ _)] at run
    obtain ⟨hash, _, hashed, run⟩ := Signing.bind_ok_iff.mp run
    obtain ⟨found, rfl⟩ := (Signing.hashPayload_ok_iff builtin s.draft).mp hashed
    rw [perform_canonical] at run
    cases run
    exact ⟨hash, seconds, hosted, found, valid, hostSet, rfl, rfl⟩
  · rintro ⟨hash, seconds, hosted, found, valid, hostSet, rfl, rfl⟩
    have first : (Signing.ofExcept terms.validitySeconds).perform s = (.ok seconds, s) := by
      rw [Signing.perform_ofExcept, valid]
    refine Signing.bind_ok_iff.mpr ⟨seconds, s, first, ?_⟩
    refine Signing.bind_ok_iff.mpr ⟨(), _, setHost_ok_iff.mpr ⟨_, hostSet, rfl⟩, ?_⟩
    rw [Signing.perform_bind_of_ok (perform_addPresignPairs _ _ _ _)]
    refine Signing.bind_ok_iff.mpr
      ⟨hash, _, (Signing.hashPayload_ok_iff builtin s.draft).mpr ⟨found, rfl⟩, ?_⟩
    rw [perform_canonical]
    rfl

theorem presignWith_ok_iff {p : SigningProfile} {cred : Credential} {terms : SigningTerms}
    {s t : Session} (builtin : p.queryRule.IsBuiltin) :
    (p.presignWith cred terms).perform s = (.ok (), t) ↔
      ∃ hash seconds hosted, (p.queryRule.hash s.draft s.payload).1 = .ok hash ∧
        terms.validitySeconds = .ok seconds ∧
        s.draft.headers.SetTo .host (some s.draft.hostText) false hosted ∧
        t = p.behindQuery cred terms hash seconds s hosted := by
  rw [presignWith_eq_prepareQuery]
  constructor
  · intro run
    obtain ⟨c, _, prepared, run⟩ := Signing.bind_ok_iff.mp run
    obtain ⟨hash, seconds, hosted, found, valid, hostSet, rfl, rfl⟩ :=
      (prepareQuery_ok_iff builtin).mp prepared
    rw [Signing.perform_bind_of_ok (Signing.perform_signature _ _ _ _),
      Signing.perform_addPairs] at run
    refine ⟨hash, seconds, hosted, found, valid, hostSet, ?_⟩
    cases run
    rfl
  · rintro ⟨hash, seconds, hosted, found, valid, hostSet, rfl⟩
    refine Signing.bind_ok_iff.mpr ⟨_, _, (prepareQuery_ok_iff builtin).mpr
      ⟨hash, seconds, hosted, found, valid, hostSet, rfl, rfl⟩, ?_⟩
    rw [Signing.perform_bind_of_ok (Signing.perform_signature _ _ _ _), Signing.perform_addPairs]
    rfl

theorem presign_of_named {p : SigningProfile} {cred : Credential}
    (named : cred.trimmed.isAnonymous = false) (terms : SigningTerms) :
    p.presign cred terms = p.presignWith cred.trimmed terms := by
  rw [presign, named]
  rfl

/-- A signature in the query succeeds when the payload has a hash, the request ends in time and a
field can hold the host. -/
theorem presign_succeeds {p : SigningProfile} {cred : Credential} {terms : SigningTerms}
    {s : Session} {hash : String} {seconds : Int} (builtin : p.queryRule.IsBuiltin)
    (named : cred.trimmed.isAnonymous = false)
    (hashed : (p.queryRule.hash s.draft s.payload).1 = .ok hash)
    (valid : terms.validitySeconds = .ok seconds) (host : IsFieldText s.draft.hostText) :
    ∃ t, (p.presign cred terms).perform s = (.ok (), t) := by
  obtain ⟨hosted, hostSet⟩ := Headers.SetTo.exists_some s.draft.headers .host false host
  rw [presign_of_named named]
  exact ⟨_, (presignWith_ok_iff builtin).mpr ⟨hash, seconds, hosted, hashed, valid, hostSet, rfl⟩⟩

/-- `t` is the session `s` with a signature in the query that follows from the signed draft: every
pair is added once and in this order, the signed names are those of the fields as they are sent,
and the signature is the one that a service with the key and the hash of the payload comes to when
it looks at the draft without the last pair. -/
structure SignedInQuery (p : SigningProfile) (cred : Credential) (terms : SigningTerms)
    (s t : Session) (hash : String) (seconds : Int) : Prop where
  hashed : (p.queryRule.hash s.draft s.payload).1 = .ok hash
  valid : terms.validitySeconds = .ok seconds
  query : t.draft.query = s.draft.query ++
    (cred.sessionToken.map fun token => ("X-Amz-Security-Token", token)).toList ++
    [("X-Amz-Algorithm", "AWS4-HMAC-SHA256"),
     ("X-Amz-Date", terms.time.compact),
     ("X-Amz-SignedHeaders",
        ";".intercalate ((Canonical.signedNames t.draft.headers).map HeaderName.text)),
     ("X-Amz-Expires", toString seconds),
     ("X-Amz-Credential", cred.accessKey ++ "/" ++ terms.scope),
     ("X-Amz-Signature", Hmac.hex (s.key cred terms) (Utf8.encode (stringToSign
        (.ofDraft { t.draft with query := t.draft.query.dropLast } hash terms.double) terms)))]
  host : Canonical.SignsField t.draft.headers .host s.draft.hostText
  others : ∀ n, HeaderName.host ≠ n → t.draft.headers.values n = s.draft.headers.values n

/-- A signature in the query can be checked from what is sent. -/
theorem presign_selfConsistent {p : SigningProfile} {cred : Credential} {terms : SigningTerms}
    {s t : Session} (builtin : p.queryRule.IsBuiltin) (named : cred.trimmed.isAnonymous = false)
    (done : (p.presign cred terms).perform s = (.ok (), t)) :
    ∃ hash seconds, SignedInQuery p cred.trimmed terms s t hash seconds := by
  rw [presign_of_named named] at done
  obtain ⟨hash, seconds, hosted, hashed, valid, hostSet, rfl⟩ :=
    (presignWith_ok_iff builtin).mp done
  -- The pair of the signature stands last, so that dropping it gives back what was signed.
  have restored : { (p.behindQuery cred.trimmed terms hash seconds s hosted).draft with
        query := (p.behindQuery cred.trimmed terms hash seconds s hosted).draft.query.dropLast } =
      beforeSignature s.draft cred.trimmed terms seconds hosted := by
    simp only [behindQuery, Draft.addPairs, List.dropLast_concat]
  refine ⟨hash, seconds, hashed, valid, ?_, ?_, ?_⟩
  · rw [restored]
    simp only [behindQuery, beforeSignature, Draft.addPairs, presignPairs, Signature.of,
      Canonical.signedText, algorithm, List.append_assoc, List.cons_append, List.nil_append]
  · obtain ⟨v, octets, _, values⟩ := hostSet.values_self
    exact Canonical.signsField_of_values (by decide) ⟨v, octets, values⟩
  · intro n different
    exact hostSet.values_other different

/-- A link that has been presigned before. -/
def oldLink : Session where
  draft := ⟨.get, .http, .named "[::1]:80", "/a//b", [("X-Amz-Signature", "old"), ("", ""),
    ("X-Amz-Signature", "old"), ("X-Amz-Algorithm", "")],
    ⟨[⟨.host, ⟨Utf8.encode "elsewhere", false, by decide⟩⟩]⟩⟩
  payload := .octets (Utf8.encode "hello")
  cache := .new 0
  log := []
  calls := []

/-- A profile that signs links without their payload. -/
def linkProfile : SigningProfile :=
  { SigningProfile.new "s3" "eu-west-1" with presignRule := some .unsigned }

/-- Links are good for an hour. -/
def linkTerms : SigningTerms := linkProfile.terms .epoch (some ⟨3600000000000, by decide⟩)

/-- A pair of keys with a session token. -/
def linkCredential : Credential := ⟨"AKIDEXAMPLE", "secret", some " token", none⟩

theorem presign_selfConsistent_oldLink :
    ∃ t hash seconds, (linkProfile.presign linkCredential linkTerms).perform oldLink = (.ok (), t) ∧
      SignedInQuery linkProfile linkCredential.trimmed linkTerms oldLink t hash seconds := by
  have hashed : (linkProfile.queryRule.hash oldLink.draft oldLink.payload).1 =
      .ok Payload.unsignedMarker := rfl
  have valid : linkTerms.validitySeconds = .ok 3600 := rfl
  obtain ⟨t, done⟩ : ∃ t,
      (linkProfile.presign linkCredential linkTerms).perform oldLink = (.ok (), t) :=
    presign_succeeds (.inr rfl) (by decide +kernel) hashed valid (by decide +kernel)
  obtain ⟨hash, seconds, signed⟩ := presign_selfConsistent (.inr rfl) (by decide +kernel) done
  exact ⟨t, hash, seconds, done, signed⟩

end SigningProfile

end RequestSigning
