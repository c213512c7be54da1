import RequestSigning.Proofs.Signing.Reports
import RequestSigning.Proofs.Signing.Success

/-!
# Declared hashes

Where the body of a request is not at hand, a field of its head says what it hashes to.
`signAt_declares_iff`: what the field says behind a signature is what was signed, except for a field
that asks for the hash while the signature goes into the query.  There it asks still.
-/

namespace RequestSigning

open Http

namespace SigningProfile

variable {p : SigningProfile} {cred : Credential} {terms : SigningTerms}

/-! ### What is sent -/

theorem signAt_none (p : SigningProfile) (now : Instant) (head : Head) (cred : Option Credential)
    (cache : KeyCache) :
    p.signAt now head cred none cache =
      p.signHead false { head with headers := declareUnsigned head.headers }
        (declaredPayload head.headers) cred (p.terms now none) cache := rfl

theorem signAt_some (p : SigningProfile) (now : Instant) (head : Head) (cred : Option Credential)
    (duration : Duration) (cache : KeyCache) :
    p.signAt now head cred (some duration) cache =
      p.signHead true head (declaredPayload head.headers) cred (p.terms now (some duration))
        cache := rfl

/-- What was signed is `c`: the log starts with it, and the signature that is sent is the one of `c`,
as the only value of its field or as the last pair of the query. -/
structure SignedFrom (c : CanonicalRequest) (cred : Credential) (terms : SigningTerms) (key : Bytes)
    (inQuery : Bool) (done : SignedHead) : Prop where
  reported : done.log.take 2 = [.debug ("calculated canonical request: " ++ c.text),
    .debug ("calculated string to sign: " ++ stringToSign c terms)]
  fields : inQuery = false → done.head.headers.octets .authorization =
    [Utf8.encode (authorization cred terms c (Signature.of key c terms).text)]
  query : inQuery = true → done.head.uri.pairs.getLast? =
    some ("X-Amz-Signature", (Signature.of key c terms).text)

/-! ### The hash of a payload that is not at hand -/

/-- The hash that is signed: the one that a field names, or the marker. -/
def namedHash (h : Headers) : String :=
  match h.text? .contentHash with
  | some text => if text = hashRequired then Payload.unsignedMarker else text
  | none => Payload.unsignedMarker

theorem hash_declaredPayload (d : Draft) (h : Headers) :
    (HashRule.sha256.hash d (declaredPayload h)).1 = .ok (namedHash h) := by
  unfold declaredPayload namedHash
  cases h.text? .contentHash with
  | none => rfl
  | some text =>
    dsimp only
    split <;> rfl

/-- A field that asks for the hash does not name it. -/
theorem text_eq_namedHash_iff (h : Headers) :
    (∀ text, h.text? .contentHash = some text → text = namedHash h) ↔
      h.text? .contentHash ≠ some hashRequired := by
  unfold namedHash
  cases read : h.text? .contentHash with
  | none => simp
  | some text =>
    have other : hashRequired ≠ Payload.unsignedMarker := by decide
    by_cases asked : text = hashRequired
    · simp [asked, other]
    · simp [asked]

/-- Fields that are declared to be unsigned name the hash, or ask for it as before. -/
theorem text_declareUnsigned {h : Headers} {text : String}
    (read : (declareUnsigned h).text? .contentHash = some text) :
    text = hashRequired ∨ text = namedHash h := by
  unfold declareUnsigned at read
  split at read
  · by_cases asked : text = hashRequired
    · exact .inl asked
    · right
      rw [namedHash, read]
      exact (if_neg asked).symm
  · rename_i absent
    have nothing : h.text? .contentHash = none := by
      rw [Headers.contains, Bool.not_eq_true, Option.isSome_eq_false_iff, Option.isNone_iff_eq_none]
        at absent
      rw [Headers.text?, absent, Option.bind_none]
    right
    rw [namedHash, nothing]
    exact Headers.text_of_single (v := unsignedValue) rfl (by rw [Headers.values_insert, if_pos rfl])
      read

/-- What a signature in the fields covers names the hash. -/
theorem Covers.text_contentHash {d : Draft} {h covered : Headers} {text : String}
    (declared : d.headers = declareUnsigned h) (covers : Covers d cred terms (namedHash h) covered)
    (read : covered.text? .contentHash = some text) : text = namedHash h := by
  by_cases asked : d.headerText? .contentHash = some hashRequired
  · obtain ⟨v, octets, values⟩ := covers.values_hash asked
    exact Headers.text_of_single octets values read
  · obtain ⟨_, _, _, tokenSet, hostSet, dateSet, hashSet⟩ := covers
    rw [requestedHash, if_neg asked] at hashSet
    have kept : covered.values .contentHash = d.headers.values .contentHash := by
      rw [hashSet.values_kept fun _ => rfl, values_contentHash tokenSet hostSet dateSet]
    rw [Headers.text?_congr kept] at read
    have other : text ≠ hashRequired := by
      rintro rfl
      exact asked read
    rw [declared] at read
    exact (text_declareUnsigned read).resolve_left other

/-! ### Both kinds of signature -/

variable {h : Headers}

theorem signHead_signedFrom {head : Head} {cache : KeyCache} (rule : p.rule = .sha256)
    (hook : p.hook.Keeps Draft.headers) (named : Text.trim cred.accessKey ≠ "")
    (declared : head.headers = declareUnsigned h)
    (done : (p.signHead false head (declaredPayload h) (some cred) terms cache).result = .ok ()) :
    ∃ c, SignedFrom c cred.trimmed terms (cache.signingKey cred.trimmed.secretKey terms.time
        terms.region terms.service).1 false
        (p.signHead false head (declaredPayload h) (some cred) terms cache) ∧
      c.contentHash = namedHash h ∧
      ∀ text, (p.signHead false head (declaredPayload h) (some cred) terms
        cache).head.headers.text? .contentHash = some text → text = c.contentHash := by
  obtain ⟨authority, t, run, restored, log⟩ := signHead_ok done
  rw [signEither_false, sign_of_named (Credential.isAnonymous_trimmed_eq_false.mpr named)] at run
  obtain ⟨hash, covered, signed, hashed, covers, signatureSet, hooked⟩ :=
    (signWith_hook_iff (.inl rule)).mp run
  -- The hook runs last and keeps the fields, so what is sent is what it was run on.
  have found : hash = namedHash h := by
    rw [rule] at hashed
    exact Except.ok.inj (hashed.symm.trans (hash_declaredPayload _ h))
  have kept : t.draft.headers = signed := (keeps_runHook hook _ terms).of_perform hooked
  have fields := (Draft.headers_of_restore restored).trans kept
  refine ⟨coveredRequest (Draft.ofUri head authority) terms hash covered, ⟨?_, ?_, Bool.noConfusion⟩,
    found, ?_⟩
  · rw [log, (silent_runHook p _ terms).of_perform hooked]
    rfl
  · intro _
    rw [fields]
    exact signatureSet.octets_self
  · intro text read
    rw [fields, Headers.text?_congr (signatureSet.values_other (by decide))] at read
    subst found
    exact covers.text_contentHash declared read

theorem presignHead_signedFrom {head : Head} {cache : KeyCache} (rule : p.queryRule = .sha256)
    (named : Text.trim cred.accessKey ≠ "")
    (done : (p.signHead true head (declaredPayload head.headers) (some cred) terms cache).result =
      .ok ()) :
    ∃ c, SignedFrom c cred.trimmed terms (cache.signingKey cred.trimmed.secretKey terms.time
        terms.region terms.service).1 true
        (p.signHead true head (declaredPayload head.headers) (some cred) terms cache) ∧
      c.contentHash = namedHash head.headers ∧
      (p.signHead true head (declaredPayload head.headers) (some cred) terms
        cache).head.headers.text? .contentHash = head.headers.text? .contentHash := by
  obtain ⟨authority, t, run, restored, log⟩ := signHead_ok done
  rw [signEither_true, presign_of_named (Credential.isAnonymous_trimmed_eq_false.mpr named)] at run
  obtain ⟨hash, seconds, hosted, hashed, _, hostSet, rfl⟩ :=
    (presignWith_ok_iff (.inl rule)).mp run
  have found : hash = namedHash head.headers := by
    rw [rule] at hashed
    exact Except.ok.inj (hashed.symm.trans (hash_declaredPayload _ head.headers))
  have rooted : (beforeSignature (Draft.ofUri head authority) cred.trimmed terms seconds
      hosted).HasTargetPath := Draft.hasTargetPath_ofUri head authority
  refine ⟨.ofDraft (beforeSignature (Draft.ofUri head authority) cred.trimmed terms seconds hosted)
    hash terms.double, ⟨?_, Bool.noConfusion, ?_⟩, found, ?_⟩
  · rw [log]
    rfl
  · intro _
    exact Draft.getLast?_pairs_of_restore rooted (by simp) restored
  · rw [Draft.headers_of_restore restored]
    exact Headers.text?_congr (hostSet.values_other (by decide))

/-- Behind a signature the field that declares a hash, if it can be read, declares the one that was
signed: always where the signature is in the fields, and where it is in the query unless the field
asked for the hash.  There it is not filled in. -/
theorem signAt_declares_iff {p : SigningProfile} {now : Instant} {head : Head} {cred : Credential}
    {expiresIn : Option Duration} {cache : KeyCache} (rule : p.rule = .sha256)
    (queryRule : p.queryRule = .sha256) (hook : p.hook.Keeps Draft.headers)
    (named : Text.trim cred.accessKey ≠ "")
    (done : (p.signAt now head (some cred) expiresIn cache).result = .ok ()) :
    ∃ c, SignedFrom c cred.trimmed (p.terms now expiresIn)
        (cache.signingKey cred.trimmed.secretKey (p.terms now expiresIn).time
          (p.terms now expiresIn).region (p.terms now expiresIn).service).1 expiresIn.isSome
        (p.signAt now head (some cred) expiresIn cache) ∧
      c.contentHash = namedHash head.headers ∧
      ((∀ text, (p.signAt now head (some cred) expiresIn cache).head.headers.text? .contentHash =
          some text → text = c.contentHash) ↔
        expiresIn = none ∨ head.headers.text? .contentHash ≠ some "required") := by
  cases expiresIn with
  | none =>
    rw [signAt_none] at done ⊢
    obtain ⟨c, signed, hash, declares⟩ := signHead_signedFrom rule hook named rfl done
    exact ⟨c, signed, hash, iff_of_true declares (.inl rfl)⟩
  | some duration =>
    rw [signAt_some] at done ⊢
    obtain ⟨c, signed, hash, kept⟩ := presignHead_signedFrom queryRule named done
    refine ⟨c, signed, hash, ?_⟩
    rw [kept, hash, text_eq_namedHash_iff]
    simp [hashRequired]

theorem isFieldText_required : IsFieldText "required" := by decide

def askedHeaders : Headers :=
  ⟨[⟨.contentHash, ⟨Utf8.encode "required", false, isFieldText_required⟩⟩]⟩

/-- A request whose field asks for the hash. -/
def askedGet : Head := { plainGet with headers := askedHeaders }

/-- That request, signed in its fields. -/
def askedSigned : SignedHead :=
  storeProfile.signAt .epoch askedGet (some linkCredential) none (.new 1)

/-- In the fields the hash is filled in. -/
theorem signAt_declares_iff_askedSigned :
    storeProfile.rule = .sha256 ∧ storeProfile.queryRule = .sha256 ∧
      storeProfile.hook.Keeps Draft.headers ∧ Text.trim linkCredential.accessKey ≠ "" ∧
      askedSigned.result = .ok () ∧
      ∃ c key, SignedFrom c linkCredential.trimmed (storeProfile.terms .epoch none) key false
          askedSigned ∧
        c.contentHash = "UNSIGNED-PAYLOAD" ∧
        ∀ text, askedSigned.head.headers.text? .contentHash = some text → text = c.contentHash := by
  have hook : storeProfile.hook.Keeps Draft.headers := fun _ _ _ _ => rfl
  have named : Text.trim linkCredential.accessKey ≠ "" := by decide +kernel
  have server : askedGet.uri.authority? = some (.named "example.org") := rfl
  have hash : namedHash askedHeaders = "UNSIGNED-PAYLOAD" := by decide +kernel
  have done : askedSigned.result = .ok () := by
    rw [askedSigned, signAt_none]
    refine signHead_succeeds (.inl rfl) rfl server ?_ ?_ (hash_declaredPayload _ askedHeaders) ?_
      named ?_ ?_ ?_
    · decide
    · decide +kernel
    · decide +kernel
    · decide +kernel
    · decide +kernel
    · decide +kernel
  obtain ⟨c, signed, declared, declares⟩ := signAt_declares_iff rfl rfl hook named done
  exact ⟨rfl, rfl, hook, named, done, c, _, signed, declared.trans hash, declares.mpr (.inl rfl)⟩

theorem anHour_le_max : 3600000000000 ≤ Duration.maxNanos := by decide

def anHour : Duration := ⟨3600000000000, anHour_le_max⟩

/-- A link of that request that is good for an hour. -/
def askedLink : SignedHead :=
  storeProfile.signAt .epoch askedGet (some linkCredential) (some anHour) (.new 1)

/-- In the query it is not filled in. -/
theorem signAt_asks_askedLink :
    ∃ c key, SignedFrom c linkCredential.trimmed
        (storeProfile.terms .epoch (some anHour)) key true askedLink ∧
      askedLink.result = .ok () ∧ c.contentHash = "UNSIGNED-PAYLOAD" ∧
      askedLink.head.headers.text? .contentHash = some "required" := by
  have names : ∀ v, Canonical.signedNames (askedGet.headers.insert .host v) =
      [.host, .contentHash] := fun v =>
    Canonical.signedNames_eq_of_perm ((List.mergeSort_perm _ _).trans (.swap _ _ _))
      (by decide +kernel)
  have named : Text.trim linkCredential.accessKey ≠ "" := by decide +kernel
  have server : askedGet.uri.authority? = some (.named "example.org") := rfl
  have valid : (storeProfile.terms .epoch (some anHour)).validitySeconds =
      .ok 3600 := rfl
  rw [askedLink, signAt_some]
  have done : (storeProfile.signHead true askedGet (declaredPayload askedGet.headers)
      (some linkCredential) (storeProfile.terms .epoch (some anHour))
      (.new 1)).result = .ok () := by
    refine presignHead_succeeds (.inl rfl) server ?_ (fun v => ?_)
      (hash_declaredPayload _ askedHeaders) valid named
    · decide
    · rw [presignPairs, Canonical.signedText, names]
      decide +kernel
  obtain ⟨c, signed, hash, kept⟩ := presignHead_signedFrom rfl named done
  refine ⟨c, _, signed, done, ?_, ?_⟩
  · rw [hash]
    decide +kernel
  · rw [kept]
    decide +kernel

end SigningProfile

end RequestSigning
