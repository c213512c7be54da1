import RequestSigning.Proofs.Canonical.Fields
import RequestSigning.Proofs.Signing.Steps

/-!
# Signatures in the header fields

`signWith_ok_iff` says when a signature in the fields succeeds and what session it leaves: `Covers`
relates the fields of the draft to those that the signature covers.  From the signed draft alone a
service that has the key comes to the same signature.
-/

namespace RequestSigning

open Http

namespace SigningProfile

/-- `covered` are the fields that a signature covers: those of the draft with session token, host
and date, and with the hash of the payload where a field asks for it. -/
def Covers (d : Draft) (cred : Credential) (terms : SigningTerms) (hash : String)
    (covered : Headers) : Prop :=
  ∃ withToken withHost withDate,
    d.headers.SetTo .securityToken cred.sessionToken true withToken ∧
    withToken.SetTo .host (some d.hostText) false withHost ∧
    withHost.SetTo .date (some terms.time.compact) false withDate ∧
    withDate.SetTo .contentHash (requestedHash d hash) false covered

namespace Covers

variable {d : Draft} {cred : Credential} {terms : SigningTerms} {hash : String} {covered : Headers}

theorem values_token (covers : Covers d cred terms hash covered) {token : String}
    (present : cred.sessionToken = some token) :
    ∃ v : HeaderValue, v.octets = Utf8.encode token ∧ covered.values .securityToken = [v] := by
  obtain ⟨withToken, withHost, withDate, tokenSet, hostSet, dateSet, hashSet⟩ := covers
  rw [present] at tokenSet
  obtain ⟨v, octets, _, values⟩ := tokenSet.values_self
  refine ⟨v, octets, ?_⟩
  rw [hashSet.values_other (by decide), dateSet.values_other (by decide),
    hostSet.values_other (by decide), values]

theorem values_host (covers : Covers d cred terms hash covered) :
    ∃ v : HeaderValue, v.octets = Utf8.encode d.hostText ∧ covered.values .host = [v] := by
  obtain ⟨withToken, withHost, withDate, _, hostSet, dateSet, hashSet⟩ := covers
  obtain ⟨v, octets, _, values⟩ := hostSet.values_self
  refine ⟨v, octets, ?_⟩
  rw [hashSet.values_other (by decide), dateSet.values_other (by decide), values]

theorem values_date (covers : Covers d cred terms hash covered) :
    ∃ v : HeaderValue, v.octets = Utf8.encode terms.time.compact ∧ covered.values .date = [v] := by
  obtain ⟨withToken, withHost, withDate, _, _, dateSet, hashSet⟩ := covers
  obtain ⟨v, octets, _, values⟩ := dateSet.values_self
  exact ⟨v, octets, (hashSet.values_other (by decide)).trans values⟩

theorem values_hash (covers : Covers d cred terms hash covered)
    (asked : d.headerText? .contentHash = some hashRequired) :
    ∃ v : HeaderValue, v.octets = Utf8.encode hash ∧ covered.values .contentHash = [v] := by
  obtain ⟨withToken, withHost, withDate, _, _, _, hashSet⟩ := covers
  rw [requestedHash, if_pos asked] at hashSet
  obtain ⟨v, octets, _, values⟩ := hashSet.values_self
  exact ⟨v, octets, values⟩

/-- The fields of every other name are those of the draft. -/
theorem values_other (covers : Covers d cred terms hash covered) {n : HeaderName}
    (notToken : HeaderName.securityToken ≠ n) (notHost : HeaderName.host ≠ n)
    (notDate : HeaderName.date ≠ n) (notHash : HeaderName.contentHash ≠ n) :
    covered.values n = d.headers.values n := by
  obtain ⟨withToken, withHost, withDate, tokenSet, hostSet, dateSet, hashSet⟩ := covers
  rw [hashSet.values_other notHash, dateSet.values_other notDate, hostSet.values_other notHost,
    tokenSet.values_other notToken]

end Covers

/-- What is signed, when `covered` are the fields that the signature covers. -/
def coveredRequest (d : Draft) (terms : SigningTerms) (hash : String) (covered : Headers) :
    CanonicalRequest :=
  .ofDraft { d with headers := covered } hash terms.double

/-- The session behind a signature in the fields. -/
def behindFields (p : SigningProfile) (cred : Credential) (terms : SigningTerms) (hash : String)
    (s : Session) (covered signed : Headers) : Session :=
  let c := coveredRequest s.draft terms hash covered
  let payload := (p.rule.hash s.draft s.payload).2.2
  { s.afterSignature c cred terms with
    draft := { s.draft with headers := signed }
    payload := payload
    calls := s.calls ++ [HookCall.mk (.of (s.key cred terms) c terms) payload terms] }

/-- Token, host and date are set before the hash is looked for. -/
theorem values_contentHash {h withToken withHost withDate : Headers} {token : Option String}
    {host date : String}
    (tokenSet : h.SetTo .securityToken token true withToken)
    (hostSet : withToken.SetTo .host (some host) false withHost)
    (dateSet : withHost.SetTo .date (some date) false withDate) :
    withDate.values .contentHash = h.values .contentHash := by
  rw [dateSet.values_other (by decide), hostSet.values_other (by decide),
    tokenSet.values_other (by decide)]

/-- What comes before a signature in the fields: the canonical request that it is made from. -/
def prepareFields (p : SigningProfile) (cred : Credential) (terms : SigningTerms) :
    Signing CanonicalRequest := do
  setToken cred
  setHost
  Signing.setHeader .date terms.time.compact false
  let hash ← Signing.hashPayload p.rule
  setHash hash
  canonical hash terms

theorem signWith_eq_prepareFields (p : SigningProfile) (cred : Credential) (terms : SigningTerms) :
    p.signWith cred terms = (do
      let c ← p.prepareFields cred terms
      let signature ← Signing.signature c cred terms
      Signing.setHeader .authorization (authorization cred terms c signature.text) true
      p.runHook signature terms) := by
  simp only [signWith, prepareFields, bind_assoc]

theorem prepareFields_ok_iff {p : SigningProfile} {cred : Credential} {terms : SigningTerms}
    {s t : Session} {c : CanonicalRequest} (builtin : p.rule.IsBuiltin) :
    (p.prepareFields cred terms).perform s = (.ok c, t) ↔
      ∃ hash covered, (p.rule.hash s.draft s.payload).1 = .ok hash ∧
        Covers s.draft cred terms hash covered ∧ c = coveredRequest s.draft terms hash covered ∧
        t = { s with
          draft := { s.draft with headers := covered }
          payload := (p.rule.hash s.draft s.payload).2.2 } := by
  constructor
  · intro run
    obtain ⟨_, _, token, run⟩ := Signing.bind_ok_iff.mp run
    obtain ⟨withToken, tokenSet, rfl⟩ := setToken_ok_iff.mp token
    obtain ⟨_, _, host, run⟩ := Signing.bind_ok_iff.mp run
    obtain ⟨withHost, hostSet, rfl⟩ := setHost_ok_iff.mp host
    obtain ⟨_, _, date, run⟩ := Signing.bind_ok_iff.mp run
    obtain ⟨withDate, dateSet, rfl⟩ := Signing.setHeader_ok_iff.mp date
    obtain ⟨hash, _, hashed, run⟩ := Signing.bind_ok_iff.mp run
    obtain ⟨found, rfl⟩ := (Signing.hashPayload_ok_iff builtin s.draft).mp hashed
    obtain ⟨_, _, replaced, run⟩ := Signing.bind_ok_iff.mp run
    obtain ⟨covered, hashSet, rfl⟩ := setHash_ok_iff.mp replaced
    have asked := requestedHash_congr (d := (s.withHeaders withDate).draft) (e := s.draft)
      (values_contentHash tokenSet hostSet dateSet) hash
    rw [perform_canonical] at run
    cases run
    exact ⟨hash, covered, found, ⟨withToken, withHost, withDate, tokenSet, hostSet, dateSet,
      asked ▸ hashSet⟩, rfl, rfl⟩
  · rintro ⟨hash, covered, found, covers, rfl, rfl⟩
    obtain ⟨withToken, withHost, withDate, tokenSet, hostSet, dateSet, hashSet⟩ := covers
    refine Signing.bind_ok_iff.mpr ⟨(), _, setToken_ok_iff.mpr ⟨_, tokenSet, rfl⟩, ?_⟩
    refine Signing.bind_ok_iff.mpr ⟨(), _, setHost_ok_iff.mpr ⟨_, hostSet, rfl⟩, ?_⟩
    refine Signing.bind_ok_iff.mpr ⟨(), _, Signing.setHeader_ok_iff.mpr ⟨_, dateSet, rfl⟩, ?_⟩
    refine Signing.bind_ok_iff.mpr
      ⟨hash, _, (Signing.hashPayload_ok_iff builtin s.draft).mpr ⟨found, rfl⟩, ?_⟩
    have asked := requestedHash_congr (d := (s.withHeaders withDate).draft) (e := s.draft)
      (values_contentHash tokenSet hostSet dateSet) hash
    refine Signing.bind_ok_iff.mpr
      ⟨(), _, setHash_ok_iff.mpr ⟨covered, asked.symm ▸ hashSet, rfl⟩, ?_⟩
    rw [perform_canonical]
    rfl

/-- The session that the hook behind a signature in the fields is run on. -/
def beforeHook (p : SigningProfile) (cred : Credential) (terms : SigningTerms) (hash : String)
    (s : Session) (covered signed : Headers) : Session :=
  { s.afterSignature (coveredRequest s.draft terms hash covered) cred terms with
    draft := { s.draft with headers := signed }
    payload := (p.rule.hash s.draft s.payload).2.2 }

/-- Whatever the hook is, it is run on the signed draft. -/
theorem signWith_hook_iff {p : SigningProfile} {cred : Credential} {terms : SigningTerms}
    {s t : Session} (builtin : p.rule.IsBuiltin) :
    (p.signWith cred terms).perform s = (.ok (), t) ↔
      ∃ hash covered signed, (p.rule.hash s.draft s.payload).1 = .ok hash ∧
        Covers s.draft cred terms hash covered ∧
        covered.SetTo .authorization (some (authorization cred terms
          (coveredRequest s.draft terms hash covered) (Signature.of (s.key cred terms)
            (coveredRequest s.draft terms hash covered) terms).text)) true signed ∧
        (p.runHook (Signature.of (s.key cred terms) (coveredRequest s.draft terms hash covered)
          terms) terms).perform (p.beforeHook cred terms hash s covered signed) = (.ok (), t) := by
  rw [signWith_eq_prepareFields]
  constructor
  · intro run
    obtain ⟨c, _, prepared, run⟩ := Signing.bind_ok_iff.mp run
    obtain ⟨hash, covered, found, covers, rfl, rfl⟩ := (prepareFields_ok_iff builtin).mp prepared
    rw [Signing.perform_bind_of_ok (Signing.perform_signature _ _ _ _)] at run
    obtain ⟨_, _, authorized, run⟩ := Signing.bind_ok_iff.mp run
    obtain ⟨signed, signatureSet, rfl⟩ := Signing.setHeader_ok_iff.mp authorized
    exact ⟨hash, covered, signed, found, covers, signatureSet, run⟩
  · rintro ⟨hash, covered, signed, found, covers, signatureSet, run⟩
    refine Signing.bind_ok_iff.mpr
      ⟨_, _, (prepareFields_ok_iff builtin).mpr ⟨hash, covered, found, covers, rfl, rfl⟩, ?_⟩
    rw [Signing.perform_bind_of_ok (Signing.perform_signature _ _ _ _)]
    exact Signing.bind_ok_iff.mpr
      ⟨(), _, Signing.setHeader_ok_iff.mpr ⟨signed, signatureSet, rfl⟩, run⟩

theorem signWith_ok_iff {p : SigningProfile} {cred : Credential} {terms : SigningTerms}
    {s t : Session} (builtin : p.rule.IsBuiltin) (hook : p.hook = .nothing) :
    (p.signWith cred terms).perform s = (.ok (), t) ↔
      ∃ hash covered signed, (p.rule.hash s.draft s.payload).1 = .ok hash ∧
        Covers s.draft cred terms hash covered ∧
        covered.SetTo .authorization (some (authorization cred terms
          (coveredRequest s.draft terms hash covered) (Signature.of (s.key cred terms)
            (coveredRequest s.draft terms hash covered) terms).text)) true signed ∧
        t = p.behindFields cred terms hash s covered signed := by
  rw [signWith_hook_iff builtin]
  refine exists_congr fun hash => exists_congr fun covered => exists_congr fun signed => ?_
  refine and_congr_right fun _ => and_congr_right fun _ => and_congr_right fun _ => ?_
  rw [perform_runHook hook, Prod.mk.injEq, eq_self, true_and, eq_comm]
  rfl

theorem sign_of_named {p : SigningProfile} {cred : Credential}
    (named : cred.trimmed.isAnonymous = false) (terms : SigningTerms) :
    p.sign cred terms = p.signWith cred.trimmed terms := by
  rw [sign, named]
  rfl

theorem isFieldText_authorization {cred : Credential} {terms : SigningTerms}
    (access : IsFieldText cred.accessKey) (scope : IsFieldText terms.scope) (c : CanonicalRequest)
    (key message : Bytes) :
    IsFieldText (authorization cred terms c (Hmac.hex key message)) := by
  have names : IsFieldText c.signedText := by
    refine isFieldText_intercalate (by decide) fun text member => ?_
    obtain ⟨n, _, rfl⟩ := List.mem_map.mp member
    exact n.isFieldText_text
  simp only [authorization, isFieldText_append]
  refine ⟨⟨⟨⟨⟨⟨⟨⟨?_, ?_⟩, access⟩, ?_⟩, scope⟩, ?_⟩, names⟩, ?_⟩, isFieldText_hex _⟩ <;> decide

theorem writable_of_authorization {cred : Credential} {terms : SigningTerms}
    {c : CanonicalRequest} {signature : String}
    (authorized : IsFieldText (authorization cred terms c signature)) :
    IsFieldText cred.accessKey ∧ IsFieldText terms.scope := by
  simp only [authorization, isFieldText_append] at authorized
  obtain ⟨⟨⟨⟨⟨⟨⟨_, access⟩, _⟩, scope⟩, _⟩, _⟩, _⟩, _⟩ := authorized
  exact ⟨access, scope⟩

theorem isFieldText_requestedHash {hash : String} (d : Draft) (hashText : IsFieldText hash) :
    ∀ text ∈ requestedHash d hash, IsFieldText text := by
  intro text member
  unfold requestedHash at member
  split at member
  · cases member
    exact hashText
  · cases member

/-- A signature in the fields succeeds when the payload has a hash and fields can hold the texts. -/
theorem sign_of_writable {p : SigningProfile} {cred : Credential} {terms : SigningTerms}
    {s : Session} {hash : String} (builtin : p.rule.IsBuiltin) (hook : p.hook = .nothing)
    (named : cred.trimmed.isAnonymous = false)
    (hashed : (p.rule.hash s.draft s.payload).1 = .ok hash)
    (token : ∀ token ∈ cred.trimmed.sessionToken, IsFieldText token)
    (host : IsFieldText s.draft.hostText) (date : IsFieldText terms.time.compact)
    (requested : ∀ text ∈ requestedHash s.draft hash, IsFieldText text)
    (access : IsFieldText cred.trimmed.accessKey) (scope : IsFieldText terms.scope) :
    ∃ t, (p.sign cred terms).perform s = (.ok (), t) := by
  obtain ⟨withToken, tokenSet⟩ :=
    Headers.SetTo.exists_of_isFieldText s.draft.headers .securityToken true token
  obtain ⟨withHost, hostSet⟩ := Headers.SetTo.exists_some withToken .host false host
  obtain ⟨withDate, dateSet⟩ := Headers.SetTo.exists_some withHost .date false date
  obtain ⟨covered, hashSet⟩ :=
    Headers.SetTo.exists_of_isFieldText withDate .contentHash false requested
  have signature := isFieldText_authorization access scope
    (coveredRequest s.draft terms hash covered) (s.key cred.trimmed terms)
    (Utf8.encode (stringToSign (coveredRequest s.draft terms hash covered) terms))
  obtain ⟨signed, signatureSet⟩ := Headers.SetTo.exists_some covered .authorization true signature
  rw [sign_of_named named]
  exact ⟨_, (signWith_ok_iff builtin hook).mpr ⟨hash, covered, signed, hashed,
    ⟨withToken, withHost, withDate, tokenSet, hostSet, dateSet, hashSet⟩, signatureSet, rfl⟩⟩

theorem sign_succeeds {p : SigningProfile} {cred : Credential} {terms : SigningTerms}
    {s : Session} {hash : String} (builtin : p.rule.IsBuiltin) (hook : p.hook = .nothing)
    (named : cred.trimmed.isAnonymous = false)
    (hashed : (p.rule.hash s.draft s.payload).1 = .ok hash)
    (token : ∀ token ∈ cred.trimmed.sessionToken, IsFieldText token)
    (host : IsFieldText s.draft.hostText) (date : IsFieldText terms.time.compact)
    (hashText : IsFieldText hash)
    (access : IsFieldText cred.trimmed.accessKey) (scope : IsFieldText terms.scope) :
    ∃ t, (p.sign cred terms).perform s = (.ok (), t) :=
  sign_of_writable builtin hook named hashed token host date
    (isFieldText_requestedHash s.draft hashText) access scope

/-! ### What a service can check -/

/-- The draft without its `authorization` field. -/
def bare (d : Draft) : Draft := { d with headers := d.headers.without .authorization }

/-- `t` is the session `s` with a signature in the fields that follows from the signed draft: its
only `authorization` value is the one that a service with the key, the access key and the hash of
the payload comes to when it looks at the draft without that field.  The fields that were set are
among the signed ones. -/
structure SignedInFields (p : SigningProfile) (cred : Credential) (terms : SigningTerms)
    (s t : Session) (hash : String) : Prop where
  hashed : (p.rule.hash s.draft s.payload).1 = .ok hash
  authorization : (t.draft.headers.values .authorization).map (·.octets) =
    [Utf8.encode ("AWS4-HMAC-SHA256" ++ " Credential=" ++ cred.accessKey ++ "/" ++ terms.scope ++
      ", SignedHeaders=" ++
        ";".intercalate ((Canonical.signedNames (bare t.draft).headers).map HeaderName.text) ++
      ", Signature=" ++ Hmac.hex (s.key cred terms) (Utf8.encode (stringToSign
        (.ofDraft (bare t.draft) hash terms.double) terms)))]
  host : Canonical.SignsField (bare t.draft).headers .host s.draft.hostText
  date : Canonical.SignsField (bare t.draft).headers .date terms.time.compact
  token : ∀ token, cred.sessionToken = some token →
    Canonical.SignsField (bare t.draft).headers .securityToken token
  replaced : s.draft.headerText? .contentHash = some "required" →
    Canonical.SignsField (bare t.draft).headers .contentHash hash

/-- A signature in the fields can be checked from what is sent. -/
theorem sign_selfConsistent {p : SigningProfile} {cred : Credential} {terms : SigningTerms}
    {s t : Session} (builtin : p.rule.IsBuiltin) (hook : p.hook = .nothing)
    (named : cred.trimmed.isAnonymous = false)
    (absent : s.draft.headers.values .authorization = [])
    (done : (p.sign cred terms).perform s = (.ok (), t)) :
    ∃ hash, SignedInFields p cred.trimmed terms s t hash := by
  rw [sign_of_named named] at done
  obtain ⟨hash, covered, signed, hashed, covers, signatureSet, rfl⟩ :=
    (signWith_ok_iff builtin hook).mp done
  have unsigned : covered.values .authorization = [] := by
    rw [covers.values_other (by decide) (by decide) (by decide) (by decide), absent]
  -- Taking the field out again gives back exactly what was signed.
  have restored : bare (p.behindFields cred.trimmed terms hash s covered signed).draft =
      { s.draft with headers := covered } := by
    simp only [bare, behindFields, signatureSet.without_eq unsigned]
  obtain ⟨value, octets, _, single⟩ := signatureSet.values_self
  refine ⟨hash, hashed, ?_, ?_, ?_, ?_, ?_⟩
  · rw [restored]
    exact (congrArg (List.map (·.octets)) single).trans (congrArg ([·]) octets)
  · rw [restored]
    exact Canonical.signsField_of_values (by decide) covers.values_host
  · rw [restored]
    exact Canonical.signsField_of_values (by decide) covers.values_date
  · intro token present
    rw [restored]
    exact Canonical.signsField_of_values (by decide) (covers.values_token present)
  · intro asked
    rw [restored]
    exact Canonical.signsField_of_values (by decide) (covers.values_hash asked)

/-- A profile of an object store. -/
def storeProfile : SigningProfile := { SigningProfile.new "s3" "us-east-1" with double := false }

/-- A credential with blanks around its keys, and a session token. -/
def paddedCredential : Credential := ⟨" AKIDEXAMPLE", "secret\n", some "token", none⟩

/-- An upload to a port of its own, with a field that asks for the hash. -/
def upload : Session where
  draft := ⟨.put, .https, .named "user@example.com:8443", "/a%20b", [("acl", ""), ("=", "&")],
    ⟨[⟨.contentHash, ⟨Utf8.encode "required", false, by decide⟩⟩,
      ⟨.connection, ⟨Utf8.encode "close", false, by decide⟩⟩]⟩⟩
  payload := .octets (Utf8.encode "hello")
  cache := .new 1
  log := []
  calls := []

theorem sign_selfConsistent_upload :
    ∃ t hash, (storeProfile.sign paddedCredential (storeProfile.terms .epoch none)).perform upload =
        (.ok (), t) ∧
      SignedInFields storeProfile paddedCredential.trimmed (storeProfile.terms .epoch none) upload t
        hash := by
  have hashed : (storeProfile.rule.hash upload.draft upload.payload).1 =
      .ok (hexSha256 (Utf8.encode "hello")) := rfl
  obtain ⟨t, done⟩ : ∃ t,
      (storeProfile.sign paddedCredential (storeProfile.terms .epoch none)).perform upload =
        (.ok (), t) :=
    sign_succeeds (.inl rfl) rfl (by decide +kernel) hashed (by decide +kernel) (by decide +kernel)
      (by decide +kernel) (isFieldText_hex _) (by decide +kernel) (by decide +kernel)
  obtain ⟨hash, signed⟩ := sign_selfConsistent (.inl rfl) rfl (by decide +kernel) rfl done
  exact ⟨t, hash, done, signed⟩

end SigningProfile

end RequestSigning
