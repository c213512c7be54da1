import RequestSigning.Proofs.Canonical.Request
import RequestSigning.Proofs.Credential
import RequestSigning.Proofs.Http.Authority
import RequestSigning.Proofs.Payload.Stream
import RequestSigning.Proofs.Signing.Fields

/-!
# Signing a signed request

Signing again sets host, date and token once more, and the first signature is replaced when the
second one has been made.  By then it is among the signed fields, so that `resigned_iff`: the second
signature is never the one that the request would have got without the first, unless the field of
the first is taken out in between; and a token stays where the second credential has none.
-/

namespace RequestSigning

open Http

theorem HashRule.IsBuiltin.hash_again {rule : HashRule} (builtin : rule.IsBuiltin) {d : Draft}
    {payload : Payload} {hash : String} (hashed : (rule.hash d payload).1 = .ok hash) (e : Draft) :
    (rule.hash e (rule.hash d payload).2.2).1 = .ok hash := by
  obtain rfl | rfl := builtin
  · exact HashRule.sha256_again hashed e
  · exact hashed

namespace SigningProfile

variable {p : SigningProfile} {cred first second : Credential} {terms later : SigningTerms}
  {d e : Draft} {hash : String} {covered : Headers} {s t u : Session}

/-! ### What a signature sets -/

/-- The text that a field is given before the signature is made. -/
def writes (d : Draft) (cred : Credential) (terms : SigningTerms) (hash : String)
    (n : HeaderName) : Option String :=
  if n = .securityToken then cred.sessionToken
  else if n = .host then some d.hostText
  else if n = .date then some terms.time.compact
  else if n = .contentHash then requestedHash d hash
  else none

/-- What the field holds then. -/
def written (d : Draft) (cred : Credential) (terms : SigningTerms) (hash : String)
    (n : HeaderName) : List Bytes :=
  match writes d cred terms hash n with
  | some text => [Utf8.encode text]
  | none => d.headers.octets n

namespace Covers

theorem octets_of_writes (covers : Covers d cred terms hash covered) {n : HeaderName} {text : String}
    (set : writes d cred terms hash n = some text) : covered.octets n = [Utf8.encode text] := by
  have single : ∃ v : HeaderValue, v.octets = Utf8.encode text ∧ covered.values n = [v] := by
    unfold writes at set
    split at set
    · rename_i same
      rw [same]
      exact covers.values_token set
    split at set
    · rename_i same
      cases set
      rw [same]
      exact covers.values_host
    split at set
    · rename_i same
      cases set
      rw [same]
      exact covers.values_date
    split at set
    · rename_i same
      unfold requestedHash at set
      split at set
      · rename_i asked
        cases set
        rw [same]
        exact covers.values_hash asked
      · cases set
    · cases set
  obtain ⟨v, octets, values⟩ := single
  rw [Headers.octets, values, List.map_singleton, octets]

theorem values_of_writes_none (covers : Covers d cred terms hash covered) {n : HeaderName}
    (unset : writes d cred terms hash n = none) : covered.values n = d.headers.values n := by
  obtain ⟨withToken, withHost, withDate, tokenSet, hostSet, dateSet, hashSet⟩ := covers
  rw [hashSet.values_kept, dateSet.values_kept, hostSet.values_kept, tokenSet.values_kept]
  all_goals
    rintro rfl
    exact unset

theorem octets_eq (covers : Covers d cred terms hash covered) (n : HeaderName) :
    covered.octets n = written d cred terms hash n := by
  unfold written
  split
  · rename_i set
    exact covers.octets_of_writes set
  · rename_i unset
    exact Headers.octets_congr (covers.values_of_writes_none unset)

/-- What was set can be written. -/
theorem isFieldText (covers : Covers d cred terms hash covered) {n : HeaderName} {text : String}
    (set : writes d cred terms hash n = some text) : IsFieldText text := by
  apply Headers.isFieldText_of_mem_octets
  rw [covers.octets_of_writes set]
  exact List.mem_singleton_self _

end Covers

/-! ### What a second signature covers -/

/-- No token of the first signature is sent with the second one that would not have been sent
without the first. -/
def LeavesNoToken (d : Draft) (first second : Credential) : Prop :=
  second.sessionToken.isSome = true ∨
    ∀ token ∈ first.sessionToken, d.headers.octets .securityToken = [Utf8.encode token]

theorem eq_of_requestedHash {text : String} (requested : requestedHash d hash = some text) :
    text = hash := by
  unfold requestedHash at requested
  split at requested
  · exact (Option.some.inj requested).symm
  · cases requested

/-- A hash that was put in its place stays there, even where it reads as the request for one. -/
theorem written_contentHash_again (covers : Covers d first terms hash covered)
    (kept : e.headers.values .contentHash = covered.values .contentHash) :
    written e second later hash .contentHash = written d second later hash .contentHash := by
  have writesHash : ∀ d cred terms, writes d cred terms hash .contentHash = requestedHash d hash :=
    fun _ _ _ => rfl
  have before : e.headers.octets .contentHash = written d first terms hash .contentHash := by
    rw [← covers.octets_eq]
    exact Headers.octets_congr kept
  simp only [written, writesHash] at before ⊢
  cases requested : requestedHash d hash with
  | none =>
    have unset := covers.values_of_writes_none ((writesHash d first terms).trans requested)
    rw [requestedHash_congr (kept.trans unset), requested]
    rw [requested] at before
    exact before
  | some text =>
    rw [requested, eq_of_requestedHash requested] at before
    rw [eq_of_requestedHash requested]
    cases again : requestedHash e hash with
    | none => exact before
    | some other => rw [eq_of_requestedHash again]

theorem written_securityToken_again
    (before : e.headers.octets .securityToken = written d first terms hash .securityToken) :
    written e second later hash .securityToken = written d second later hash .securityToken ↔
      LeavesNoToken d first second := by
  have writesToken : ∀ d cred terms, writes d cred terms hash .securityToken = cred.sessionToken :=
    fun _ _ _ => rfl
  simp only [written, writesToken, LeavesNoToken] at before ⊢
  cases replaced : second.sessionToken with
  | some token => simp
  | none =>
    cases left : first.sessionToken with
    | some token =>
      rw [left] at before
      simp [before, eq_comm]
    | none =>
      rw [left] at before
      simp [before]

/-- Behind a first signature the second one covers, but for the field of the first, what it would
have covered without it, and perhaps a token. -/
theorem octets_covered_again {left atop direct : Headers}
    (covers : Covers d first terms hash left) (host : e.hostText = d.hostText)
    (kept : ∀ n, n ≠ .authorization → e.headers.values n = left.values n)
    (again : Covers e second later hash atop) (once : Covers d second later hash direct)
    {n : HeaderName} (other : n ≠ .authorization) :
    atop.octets n = direct.octets n ↔ (n = .securityToken → LeavesNoToken d first second) := by
  have before : e.headers.octets n = written d first terms hash n := by
    rw [← covers.octets_eq]
    exact Headers.octets_congr (kept n other)
  rw [again.octets_eq, once.octets_eq]
  by_cases token : n = .securityToken
  · subst token
    exact (written_securityToken_again before).trans (imp_iff_right rfl).symm
  refine iff_of_true ?_ fun same => absurd same token
  by_cases hosted : n = .host
  · subst hosted
    exact congrArg (fun text => [Utf8.encode text]) host
  by_cases dated : n = .date
  · subst dated
    rfl
  by_cases hashed : n = .contentHash
  · subst hashed
    exact written_contentHash_again covers (kept _ other)
  · have unset : ∀ d cred terms, writes d cred terms hash n = none := by
      intro d cred terms
      rw [writes, if_neg token, if_neg hosted, if_neg dated, if_neg hashed]
    simp only [written, unset] at before ⊢
    exact before

/-! ### The first signature among the signed fields -/

theorem signedText_of_authorization {c k : CanonicalRequest} {signature other : String}
    (same : authorization cred terms c signature = authorization cred terms k other) :
    c.signedText = k.signedText := by
  have comma : Utf8.encode ", Signature=" = 0x2C :: Utf8.encode " Signature=" := by decide
  have octets := congrArg Utf8.encode same
  simp only [authorization, Utf8.encode_append, comma, List.append_assoc, List.cons_append,
    List.append_cancel_left_eq] at octets
  have names := (Bytes.append_separator_inj (c.not_mem_signedText (by decide) (by decide))
    (k.not_mem_signedText (by decide) (by decide)) octets).1
  exact Utf8.encode_injective names

/-- A signature that covers an `authorization` field is none that covers no such field. -/
theorem authorization_ne {c k : CanonicalRequest} {signature other : String}
    (covered : HeaderName.authorization ∈ c.names) (uncovered : HeaderName.authorization ∉ k.names) :
    authorization cred terms c signature ≠ authorization cred terms k other := by
  intro same
  rw [CanonicalRequest.names_eq_of_signedText (signedText_of_authorization same)] at covered
  exact uncovered covered

/-! ### One signature and another -/

/-- What a signature in the fields leaves of a session, when `covered` are the fields it covers. -/
structure Signs (p : SigningProfile) (cred : Credential) (terms : SigningTerms) (s t : Session)
    (hash : String) (covered : Headers) : Prop where
  hashed : (p.rule.hash s.draft s.payload).1 = .ok hash
  covers : Covers s.draft cred terms hash covered
  rest : t.draft = { s.draft with headers := t.draft.headers }
  payload : t.payload = (p.rule.hash s.draft s.payload).2.2
  cleared : covered.values .authorization = [] →
    bare t.draft = { s.draft with headers := covered }
  others : ∀ n, n ≠ .authorization → t.draft.headers.values n = covered.values n
  authorization : t.draft.headers.octets .authorization = [Utf8.encode (authorization cred terms
    (coveredRequest s.draft terms hash covered) (Signature.of (s.key cred terms)
      (coveredRequest s.draft terms hash covered) terms).text)]

theorem signs_of_sign (builtin : p.rule.IsBuiltin) (hook : p.hook = .nothing)
    (named : Text.trim cred.accessKey ≠ "") (run : (p.sign cred terms).perform s = (.ok (), t)) :
    ∃ hash covered, Signs p cred.trimmed terms s t hash covered := by
  rw [sign_of_named (Credential.isAnonymous_trimmed_eq_false.mpr named)] at run
  obtain ⟨hash, covered, signed, hashed, covers, signatureSet, rfl⟩ :=
    (signWith_ok_iff builtin hook).mp run
  refine ⟨hash, covered, hashed, covers, rfl, rfl, ?_, ?_, signatureSet.octets_self⟩
  · intro absent
    simp only [bare, behindFields, signatureSet.without_eq absent]
  · intro n other
    exact signatureSet.values_other (Ne.symm other)

namespace Signs

variable {left atop direct : Headers} {q r v : Session}

theorem octets_other (signs : Signs p cred terms s t hash covered) {n : HeaderName}
    (other : n ≠ .authorization) : t.draft.headers.octets n = covered.octets n :=
  Headers.octets_congr (signs.others n other)

theorem values_authorization (signs : Signs p cred terms s t hash covered) :
    covered.values .authorization = s.draft.headers.values .authorization :=
  signs.covers.values_other (by decide) (by decide) (by decide) (by decide)

theorem hash_again (signs : Signs p cred terms s t hash covered) (builtin : p.rule.IsBuiltin)
    (d : Draft) : (p.rule.hash d t.payload).1 = .ok hash := by
  rw [signs.payload]
  exact builtin.hash_again signs.hashed d

theorem values_authorization_ne_nil (signs : Signs p cred terms s t hash covered) :
    t.draft.headers.values .authorization ≠ [] := by
  intro none
  have single := signs.authorization
  rw [Headers.octets, none] at single
  cases single

/-- What was written for one request can be written for any other. -/
theorem sign_elsewhere (signs : Signs p cred.trimmed terms s t hash covered)
    (builtin : p.rule.IsBuiltin) (hook : p.hook = .nothing)
    (named : Text.trim cred.accessKey ≠ "") (r : Session)
    (hashed : (p.rule.hash r.draft r.payload).1 = .ok hash)
    (requested : ∀ text ∈ requestedHash r.draft hash, IsFieldText text) :
    ∃ v, (p.sign cred terms).perform r = (.ok (), v) := by
  have token : ∀ token ∈ cred.trimmed.sessionToken, IsFieldText token := by
    intro token present
    exact signs.covers.isFieldText (n := .securityToken) present
  obtain ⟨access, scope⟩ := writable_of_authorization (Headers.isFieldText_of_mem_octets
    (signs.authorization ▸ List.mem_singleton_self _))
  exact sign_of_writable builtin hook (Credential.isAnonymous_trimmed_eq_false.mpr named) hashed
    token r.draft.isFieldText_hostText (isFieldText_compact _) requested access scope

/-- Behind a first signature, and whether or not its field is still there, the second one leaves
the same other fields as without the first, but for a token of the first. -/
theorem octets_again_iff (one : Signs p first terms s t hash left)
    (two : Signs p second later r u hash atop) (plain : Signs p second later q v hash direct)
    (unsigned : q.draft = s.draft) (rest : r.draft = { s.draft with headers := r.draft.headers })
    (kept : ∀ n, n ≠ .authorization → r.draft.headers.values n = left.values n) {n : HeaderName}
    (other : n ≠ .authorization) :
    u.draft.headers.octets n = v.draft.headers.octets n ↔
      (n = .securityToken → LeavesNoToken s.draft first second) := by
  have host : r.draft.hostText = s.draft.hostText := by
    rw [rest]
    rfl
  rw [two.octets_other other, plain.octets_other other]
  exact octets_covered_again one.covers host kept two.covers (unsigned ▸ plain.covers) other

/-- A signature on top of another one covers it, and so is not the signature without it. -/
theorem octets_authorization_ne (two : Signs p second later r u hash atop)
    (plain : Signs p second later s v hash direct)
    (signed : r.draft.headers.values .authorization ≠ [])
    (absent : s.draft.headers.values .authorization = []) :
    u.draft.headers.octets .authorization ≠ v.draft.headers.octets .authorization := by
  have covered : HeaderName.authorization ∈ Canonical.signedNames atop := by
    rw [Canonical.mem_signedNames, two.values_authorization]
    exact ⟨signed, by decide⟩
  have uncovered : HeaderName.authorization ∉ Canonical.signedNames direct := by
    rw [Canonical.mem_signedNames, plain.values_authorization]
    exact fun member => member.1 absent
  rw [two.authorization, plain.authorization]
  intro same
  exact authorization_ne covered uncovered (Utf8.encode_injective (List.singleton_inj.mp same))

/-- Signatures of one key over requests that get the same other fields are the same. -/
theorem octets_eq_of_others (two : Signs p second later r u hash atop)
    (plain : Signs p second later q v hash direct)
    (rest : r.draft = { q.draft with headers := r.draft.headers })
    (key : r.key second later = q.key second later)
    (signature : r.draft.headers.values .authorization = q.draft.headers.values .authorization)
    (others : ∀ n, n ≠ .authorization → u.draft.headers.octets n = v.draft.headers.octets n)
    (n : HeaderName) : u.draft.headers.octets n = v.draft.headers.octets n := by
  have same : ∀ n, atop.octets n = direct.octets n := by
    intro n
    by_cases named : n = .authorization
    · subst named
      refine Headers.octets_congr ?_
      rw [two.values_authorization, signature, ← plain.values_authorization]
    · rw [← two.octets_other named, others n named, plain.octets_other named]
  have covered : coveredRequest r.draft later hash atop =
      coveredRequest q.draft later hash direct := by
    rw [rest]
    simp only [coveredRequest, CanonicalRequest.ofDraft, Canonical.fields_congr fun n _ => same n,
      Canonical.signedNames_congr fun n _ => same n]
  by_cases named : n = .authorization
  · rw [named, two.authorization, plain.authorization, covered, key]
  · exact others n named

end Signs

/-- A signed request that is signed again gets every other field that it would have got unsigned, but
for a token of the first signature where the second has none.  Its `authorization` field is never
the one it would have got, whatever the keys.  With the first signature taken out before, it is the
same exactly if no token is left. -/
theorem resigned_iff (builtin : p.rule.IsBuiltin) (hook : p.hook = .nothing)
    (named : Text.trim first.accessKey ≠ "") (alsoNamed : Text.trim second.accessKey ≠ "")
    (absent : s.draft.headers.values .authorization = []) (cache other : KeyCache)
    (signed : (p.sign first terms).perform s = (.ok (), t))
    (resigned : (p.sign second later).perform { t with cache := cache } = (.ok (), u)) :
    ∃ v w, (p.sign second later).perform { s with cache := other } = (.ok (), v) ∧
      (p.sign second later).perform { t with draft := bare t.draft, cache := other } =
        (.ok (), w) ∧
      u.draft = { v.draft with headers := u.draft.headers } ∧
      (∀ n, u.draft.headers.octets n = v.draft.headers.octets n ↔ n ≠ .authorization ∧
        (n = .securityToken → LeavesNoToken s.draft first.trimmed second.trimmed)) ∧
      ((∀ n, w.draft.headers.octets n = v.draft.headers.octets n) ↔
        LeavesNoToken s.draft first.trimmed second.trimmed) := by
  obtain ⟨hash, left, one⟩ := signs_of_sign builtin hook named signed
  obtain ⟨found, atop, two⟩ := signs_of_sign builtin hook alsoNamed resigned
  obtain rfl := Except.ok.inj ((one.hash_again builtin _).symm.trans two.hashed)
  -- The request as it was, signed once.
  obtain ⟨v, once⟩ := two.sign_elsewhere builtin hook alsoNamed { s with cache := other } one.hashed
    fun text requested => one.covers.isFieldText (n := .contentHash) requested
  obtain ⟨_, direct, plain⟩ := signs_of_sign builtin hook alsoNamed once
  obtain rfl := Except.ok.inj (one.hashed.symm.trans plain.hashed)
  -- The signed request with its signature taken out.
  have unsigned : left.values .authorization = [] := one.values_authorization.trans absent
  have cleared : bare t.draft = { s.draft with headers := left } := one.cleared unsigned
  have fields : ∀ n, (bare t.draft).headers.values n = left.values n := by
    intro n
    rw [cleared]
  have requested : ∀ text ∈ requestedHash (bare t.draft) hash, IsFieldText text := by
    intro text member
    rw [requestedHash_congr ((fields _).trans (one.others _ (by decide)).symm)] at member
    exact two.covers.isFieldText (n := .contentHash) member
  obtain ⟨w, apart⟩ := two.sign_elsewhere builtin hook alsoNamed
    { t with draft := bare t.draft, cache := other } (one.hash_again builtin _) requested
  obtain ⟨_, alone, three⟩ := signs_of_sign builtin hook alsoNamed apart
  obtain rfl := Except.ok.inj ((one.hash_again builtin _).symm.trans three.hashed)
  have rest : bare t.draft = { s.draft with headers := (bare t.draft).headers } := by rw [cleared]
  have behind : ∀ n, n ≠ .authorization → (w.draft.headers.octets n = v.draft.headers.octets n ↔
      (n = .securityToken → LeavesNoToken s.draft first.trimmed second.trimmed)) :=
    fun n other => one.octets_again_iff three plain rfl rest (fun n _ => fields n) other
  refine ⟨v, w, once, apart, ?_, ?_, ?_, ?_⟩
  · calc u.draft
      _ = { t.draft with headers := u.draft.headers } := two.rest
      _ = { s.draft with headers := u.draft.headers } :=
        congrArg (fun d : Draft => { d with headers := u.draft.headers }) one.rest
      _ = { v.draft with headers := u.draft.headers } :=
        congrArg (fun d : Draft => { d with headers := u.draft.headers }) plain.rest.symm
  · intro n
    by_cases signature : n = .authorization
    · subst signature
      have different := two.octets_authorization_ne plain one.values_authorization_ne_nil absent
      exact iff_of_false different fun both => both.1 rfl
    · rw [one.octets_again_iff two plain rfl one.rest one.others signature,
        and_iff_right signature]
  · intro same
    exact (behind .securityToken (by decide)).mp (same .securityToken) rfl
  · intro none
    exact three.octets_eq_of_others plain rest rfl ((fields _).trans (unsigned.trans absent.symm))
      fun n other => (behind n other).mpr fun _ => none

/-- The keys that took the place of the padded ones; they come without a token. -/
def rotatedCredential : Credential := .ofKeys "AKIDROTATED" "other"

/-- A day later. -/
def retryTerms : SigningTerms := storeProfile.terms ⟨86400, 0, by decide⟩ none

/-- The upload is retried with the other keys: it keeps the token of the first ones. -/
theorem resigned_iff_upload :
    ∃ t u v w, (storeProfile.sign paddedCredential (storeProfile.terms .epoch none)).perform
        upload = (.ok (), t) ∧
      (storeProfile.sign rotatedCredential retryTerms).perform { t with cache := .new 1 } =
        (.ok (), u) ∧
      (storeProfile.sign rotatedCredential retryTerms).perform { upload with cache := .new 2 } =
        (.ok (), v) ∧
      (storeProfile.sign rotatedCredential retryTerms).perform
        { t with draft := bare t.draft, cache := .new 2 } = (.ok (), w) ∧
      u.draft.headers.octets .contentHash = v.draft.headers.octets .contentHash ∧
      u.draft.headers.octets .authorization ≠ v.draft.headers.octets .authorization ∧
      u.draft.headers.octets .securityToken ≠ v.draft.headers.octets .securityToken ∧
      ¬∀ n, w.draft.headers.octets n = v.draft.headers.octets n := by
  have hashed : (storeProfile.rule.hash upload.draft upload.payload).1 =
      .ok (hexSha256 (Utf8.encode "hello")) := rfl
  obtain ⟨t, signed⟩ : ∃ t, (storeProfile.sign paddedCredential
      (storeProfile.terms .epoch none)).perform upload = (.ok (), t) :=
    sign_succeeds (.inl rfl) rfl (by decide +kernel) hashed (by decide +kernel)
      upload.draft.isFieldText_hostText (isFieldText_compact _) (isFieldText_hex _)
      (by decide +kernel) (by decide +kernel)
  obtain ⟨hash, _, one⟩ := signs_of_sign (.inl rfl) rfl (by decide +kernel) signed
  obtain rfl := Except.ok.inj (hashed.symm.trans one.hashed)
  obtain ⟨u, resigned⟩ : ∃ u, (storeProfile.sign rotatedCredential retryTerms).perform
      { t with cache := .new 1 } = (.ok (), u) :=
    sign_succeeds (.inl rfl) rfl (by decide +kernel) (one.hash_again (.inl rfl) t.draft)
      (by decide +kernel) t.draft.isFieldText_hostText (isFieldText_compact _) (isFieldText_hex _)
      (by decide +kernel) (by decide +kernel)
  obtain ⟨v, w, once, apart, _, same, alone⟩ := resigned_iff (.inl rfl) rfl (by decide +kernel)
    (by decide +kernel) rfl (.new 1) (.new 2) signed resigned
  have left : ¬LeavesNoToken upload.draft paddedCredential.trimmed rotatedCredential.trimmed := by
    unfold LeavesNoToken
    decide +kernel
  refine ⟨t, u, v, w, signed, resigned, once, apart, ?_, ?_, ?_, fun every => left (alone.mp every)⟩
  · exact (same .contentHash).mpr ⟨by decide, fun token => absurd token (by decide)⟩
  · exact fun signature => ((same .authorization).mp signature).1 rfl
  · exact fun token => left (((same .securityToken).mp token).2 rfl)

/-- A download without any field. -/
def plainDownload : Session where
  draft := ⟨.get, .https, .named "media.example.com", "/a", [], .empty⟩
  payload := .empty
  cache := .new 1
  log := []
  calls := []

/-- Even with the same keys and the same time the second signature is another one. -/
theorem resigned_ne_plainDownload :
    ∃ t u, (storeProfile.sign rotatedCredential retryTerms).perform plainDownload = (.ok (), t) ∧
      (storeProfile.sign rotatedCredential retryTerms).perform t = (.ok (), u) ∧
      u.draft.headers.octets .authorization ≠ t.draft.headers.octets .authorization := by
  have signs : ∀ d cache log calls, ∃ t,
      (storeProfile.sign rotatedCredential retryTerms).perform ⟨d, .empty, cache, log, calls⟩ =
        (.ok (), t) := fun d _ _ _ =>
    sign_succeeds (.inl rfl) rfl (by decide +kernel) rfl (by decide +kernel)
      d.isFieldText_hostText (isFieldText_compact _) (isFieldText_hex _) (by decide +kernel)
      (by decide +kernel)
  obtain ⟨t, signed⟩ := signs plainDownload.draft (.new 1) [] []
  obtain ⟨hash, _, one⟩ := signs_of_sign (.inl rfl) rfl (by decide +kernel) signed
  have payload : t.payload = .empty := one.payload
  obtain ⟨u, resigned⟩ := signs t.draft t.cache t.log t.calls
  rw [← payload] at resigned
  obtain ⟨_, _, two⟩ := signs_of_sign (.inl rfl) rfl (by decide +kernel) resigned
  obtain rfl := Except.ok.inj ((one.hash_again (.inl rfl) t.draft).symm.trans two.hashed)
  exact ⟨t, u, signed, resigned,
    two.octets_authorization_ne one one.values_authorization_ne_nil rfl⟩

end SigningProfile

end RequestSigning
