import RequestSigning.Proofs.Signing.Reports
import RequestSigning.Proofs.Signing.Resigned

/-!
# What a log discloses

The secret key leaves no trace in what a signature reports.  The session token does: it is among what
is signed, and what is signed is reported.  `log_discloses` says in which form it stands there, and
that this form is all that can be learned of it.
-/

namespace RequestSigning

open Http

/-! ### Texts in texts -/

/-- A text stands somewhere in another one. -/
def Occurs (text whole : String) : Prop := text.toList <:+: whole.toList

instance (text whole : String) : Decidable (Occurs text whole) :=
  inferInstanceAs (Decidable (_ <:+: _))

namespace Occurs

variable {text whole : String}

theorem append_left (occurs : Occurs text whole) (before : String) :
    Occurs text (before ++ whole) := by
  rw [Occurs, String.toList_append]
  exact List.IsInfix.trans occurs (List.suffix_append _ _).isInfix

theorem append_right (occurs : Occurs text whole) (after : String) :
    Occurs text (whole ++ after) := by
  rw [Occurs, String.toList_append]
  exact List.IsInfix.trans occurs (List.prefix_append _ _).isInfix

theorem between (before text after : String) : Occurs text (before ++ text ++ after) :=
  append_right (append_left (List.infix_refl _) before) after

theorem intercalate {sep : String} {texts : List String} (member : whole ∈ texts)
    (occurs : Occurs text whole) : Occurs text (sep.intercalate texts) := by
  induction texts with
  | nil => cases member
  | cons first rest ih =>
    cases rest with
    | nil =>
      rw [List.mem_singleton.mp member] at occurs
      rwa [String.intercalate_singleton]
    | cons next rest =>
      rw [String.intercalate_cons_cons]
      obtain rfl | later := List.mem_cons.mp member
      · exact append_right (append_right occurs sep) _
      · exact append_left (ih later) _

end Occurs

/-! ### What stands around a line -/

namespace CanonicalRequest

theorem text_of_fields {c : CanonicalRequest} {before after : List (HeaderName × Bytes)}
    {n : HeaderName} {value : Bytes} (split : c.fields = before ++ (n, value) :: after) :
    c.text = c.method.text ++ "\n" ++ c.path ++ "\n" ++ c.query ++ "\n" ++
      (String.join (before.map fun f => f.1.text ++ ":" ++ Utf8.decodeLossy f.2 ++ "\n") ++
        (n.text ++ ":")) ++ Utf8.decodeLossy value ++
      ("\n" ++ (String.join (after.map fun f => f.1.text ++ ":" ++ Utf8.decodeLossy f.2 ++ "\n") ++
        "\n" ++ c.signedText ++ "\n" ++ c.contentHash)) := by
  rw [text, split, List.map_append, List.map_cons, String.join_append, String.join_cons]
  simp only [String.append_assoc]

theorem text_of_query (c : CanonicalRequest) :
    c.text = c.method.text ++ "\n" ++ c.path ++ "\n" ++ c.query ++
      ("\n" ++ String.join (c.fields.map fun f =>
        f.1.text ++ ":" ++ Utf8.decodeLossy f.2 ++ "\n") ++ "\n" ++ c.signedText ++ "\n" ++
          c.contentHash) := by
  simp only [text, String.append_assoc]

end CanonicalRequest

namespace SigningProfile

/-- The form in which a token is signed. -/
def tokenForm (inQuery : Bool) (token : String) : String :=
  if inQuery then Percent.encode Percent.isUnreserved token
  else Utf8.decodeLossy (Canonical.compact (Utf8.encode token))

variable {p : SigningProfile} {terms : SigningTerms} {d : Draft} {payload : Payload}
  {access token other : String} {c k : CanonicalRequest}

/-- A credential without its secret key. -/
def shown (access : String) (token : Option String) : Credential := ⟨access, "", token, none⟩

theorem compact_eq_of_tokenForm (same : tokenForm false token = tokenForm false other) :
    Canonical.compact (Utf8.encode token) = Canonical.compact (Utf8.encode other) := by
  obtain ⟨text, left⟩ := Canonical.exists_encode_eq_compact token
  obtain ⟨otherText, right⟩ := Canonical.exists_encode_eq_compact other
  have forms : Utf8.decodeLossy (Canonical.compact (Utf8.encode token)) =
      Utf8.decodeLossy (Canonical.compact (Utf8.encode other)) := same
  rw [left, right, Utf8.decodeLossy_encode, Utf8.decodeLossy_encode] at forms
  rw [left, right, forms]

/-- Two tokens in the fields make a difference in one line. -/
theorem fields_of_prepared (builtin : p.rule.IsBuiltin)
    (left : p.prepared false (shown access (some token)) terms d payload = .ok c)
    (right : p.prepared false (shown access (some other)) terms d payload = .ok k) :
    ∃ before after,
      c.fields = before ++ (.securityToken, Canonical.compact (Utf8.encode token)) :: after ∧
      k = { c with
        fields := before ++ (.securityToken, Canonical.compact (Utf8.encode other)) :: after } := by
  obtain ⟨hash, covered, hashed, covers, rfl, _⟩ :=
    (prepareFields_ok_iff builtin).mp (Prod.ext left rfl)
  obtain ⟨again, others, rehashed, recovers, rfl, _⟩ :=
    (prepareFields_ok_iff builtin).mp (Prod.ext right rfl)
  obtain rfl := Except.ok.inj (hashed.symm.trans rehashed)
  -- Both cover the same fields but for the token, which is one line among the others.
  have apart : ∀ n, n ≠ .securityToken → covered.octets n = others.octets n := by
    intro n different
    rw [covers.octets_eq, recovers.octets_eq]
    simp only [written, writes, if_neg different]
  obtain ⟨names, before, after, first, second⟩ := Canonical.fields_split (n := .securityToken)
    (by decide) apart (covers.octets_eq _) (recovers.octets_eq _)
  refine ⟨before, after, first, ?_⟩
  simp only [coveredRequest, CanonicalRequest.ofDraft, names, second]

/-- Two tokens in the query make a difference in one pair. -/
theorem query_of_prepared (builtin : p.queryRule.IsBuiltin)
    (left : p.prepared true (shown access (some token)) terms d payload = .ok c)
    (right : p.prepared true (shown access (some other)) terms d payload = .ok k) :
    ∃ before after,
      c.query = Canonical.query (before ++ ("X-Amz-Security-Token", token) :: after) ∧
      k = { c with
        query := Canonical.query (before ++ ("X-Amz-Security-Token", other) :: after) } := by
  obtain ⟨hash, seconds, hosted, hashed, valid, hostSet, rfl, _⟩ :=
    (prepareQuery_ok_iff builtin).mp (Prod.ext left rfl)
  obtain ⟨again, others, rehosted, rehashed, revalid, rehostSet, rfl, _⟩ :=
    (prepareQuery_ok_iff builtin).mp (Prod.ext right rfl)
  obtain rfl := Except.ok.inj (hashed.symm.trans rehashed)
  obtain rfl := Except.ok.inj (valid.symm.trans revalid)
  obtain rfl := hostSet.unique rehostSet
  exact ⟨_, _, rfl, rfl⟩

/-- Whatever the token is, it stands in what is signed, and nothing else in there depends on it. -/
theorem prepared_tokens (rule : p.rule.IsBuiltin) (queryRule : p.queryRule.IsBuiltin)
    {inQuery : Bool}
    (left : p.prepared inQuery (shown access (some token)) terms d payload = .ok c)
    (right : p.prepared inQuery (shown access (some other)) terms d payload = .ok k) :
    Occurs (tokenForm inQuery token) c.text ∧
      (c.text = k.text ↔ tokenForm inQuery token = tokenForm inQuery other) ∧
      (tokenForm inQuery token = tokenForm inQuery other → c = k) := by
  cases inQuery with
  | false =>
    obtain ⟨before, after, fields, rfl⟩ := fields_of_prepared rule left right
    refine ⟨?_, ?_, fun same => ?_⟩
    · rw [CanonicalRequest.text_of_fields fields]
      exact Occurs.between _ _ _
    · rw [CanonicalRequest.text_of_fields fields, CanonicalRequest.text_of_fields rfl]
      exact (String.append_left_inj _).trans (String.append_right_inj _)
    · rw [← compact_eq_of_tokenForm same, ← fields]
  | true =>
    obtain ⟨before, after, query, rfl⟩ := query_of_prepared queryRule left right
    refine ⟨?_, ?_, fun same => ?_⟩
    · rw [CanonicalRequest.text_of_query, query]
      refine Occurs.append_right (Occurs.append_left ?_ _) _
      rw [Canonical.query_eq_intercalate]
      exact Occurs.intercalate (Canonical.mem_written (List.mem_append_right _ List.mem_cons_self))
        (Occurs.append_left (List.infix_refl _) _)
    · rw [CanonicalRequest.text_of_query, CanonicalRequest.text_of_query]
      refine (String.append_left_inj _).trans ((String.append_right_inj _).trans ?_)
      rw [query]
      exact Canonical.query_eq_iff_of_value
    · rw [← Canonical.query_eq_iff_of_value.mpr same, ← query]

/-! ### The log of a call -/

/-- As far as a request is prepared, only the access key and the token of a credential are seen. -/
theorem prepared_trimmed (inQuery : Bool) (cred : Credential) :
    p.prepared inQuery cred.trimmed terms d payload =
      p.prepared inQuery (shown (Text.trim cred.accessKey) (cred.sessionToken.map Text.trim)) terms
        d payload := by
  rw [prepared, prepared, Credential.trimmed_eq]
  exact congrArg (fun step => (step.perform (.fresh d payload)).1) (prepare_congr rfl rfl inQuery)

theorem reports_ne_nil_iff {r : Except Error CanonicalRequest} :
    reports terms r ≠ [] ↔ ∃ c, r = .ok c := by
  cases r with
  | error e => simp [reports]
  | ok c => simp [reports]

theorem occurs_of_reports {text : String} (terms : SigningTerms) (occurs : Occurs text c.text) :
    ∃ entry ∈ reports terms (.ok c), Occurs text entry.message :=
  ⟨_, List.mem_cons_self, occurs.append_left "calculated canonical request: "⟩

/-- Whoever signs with a token has it in the log. -/
theorem occurs_of_signEither {inQuery : Bool} {cred : Credential} {s t : Session}
    (rule : p.rule.IsBuiltin) (queryRule : p.queryRule.IsBuiltin)
    (named : Text.trim cred.accessKey ≠ "") (present : cred.sessionToken = some token)
    (run : (p.signEither inQuery cred terms).perform s = (.ok (), t)) :
    ∃ entry ∈ t.log, Occurs (tokenForm inQuery (Text.trim token)) entry.message := by
  have known := Credential.isAnonymous_trimmed_eq_false.mpr named
  obtain ⟨c, made⟩ := prepared_of_signEither known run
  obtain ⟨missed, _, log⟩ := log_signEither p known inQuery terms s
  rw [run, made] at log
  rw [prepared_trimmed, present] at made
  obtain ⟨entry, member, occurs⟩ :=
    occurs_of_reports terms (prepared_tokens rule queryRule made made).1
  refine ⟨entry, ?_, occurs⟩
  rw [show t.log = _ from log]
  exact List.mem_append_left _ (List.mem_append_right _ member)

/-- `reports` is what the calls for a request report, as far as it depends on the token: -/
structure Discloses (p : SigningProfile) (inQuery : Bool) (access : String) (terms : SigningTerms)
    (d : Draft) (payload : Payload) (reports : Option String → List Log.Entry) : Prop where
  /-- neither the secret key nor the end of validity makes a difference to it, and the key cache
  none but whether one line says that it had no key; -/
  logged : ∀ secret token expires cache, ∃ missed, (missed = [] ∨
      missed = [KeyCache.missEntry terms.region terms.service terms.time.days]) ∧
    ((p.signEither inQuery ⟨access, secret, token, expires⟩ terms).perform
      ⟨d, payload, cache, [], []⟩).2.log = reports (token.map Text.trim) ++ missed
  /-- every signature that succeeds is reported; -/
  signed : ∀ secret token expires cache, ((p.signEither inQuery
      ⟨access, secret, token, expires⟩ terms).perform ⟨d, payload, cache, [], []⟩).1 = .ok () →
    reports (token.map Text.trim) ≠ []
  /-- what is reported holds the token, in the form in which it is signed, -/
  occurs : p.rule.IsBuiltin → p.queryRule.IsBuiltin → ∀ token, reports (some token) ≠ [] →
    ∃ entry ∈ reports (some token), Occurs (tokenForm inQuery token) entry.message
  /-- and depends on nothing else of it. -/
  form : p.rule.IsBuiltin → p.queryRule.IsBuiltin → ∀ token other, reports (some token) ≠ [] →
    reports (some other) ≠ [] →
      (reports (some token) = reports (some other) ↔
        tokenForm inQuery token = tokenForm inQuery other)

/-- The log of a call can be told without the secret key.  The token is in the log of each call that
gets as far as a signature, and of two tokens the log is the same if and only if they are signed in
the same form. -/
theorem log_discloses (p : SigningProfile) (inQuery : Bool) {access : String}
    (named : Text.trim access ≠ "") (terms : SigningTerms) (d : Draft) (payload : Payload) :
    ∃ reports, Discloses p inQuery access terms d payload reports := by
  refine ⟨fun token => reports terms (p.prepared inQuery (shown (Text.trim access) token) terms d
    payload), ?_, ?_, ?_, ?_⟩
  · intro secret token expires cache
    have known : (Credential.mk access secret token expires).trimmed.isAnonymous = false :=
      Credential.isAnonymous_trimmed_eq_false.mpr named
    obtain ⟨missed, line, log⟩ := log_signEither p known inQuery terms
      ⟨d, payload, cache, [], []⟩
    rw [prepared_trimmed, List.nil_append] at log
    exact ⟨missed, line, log⟩
  · intro secret token expires cache done
    have known : (Credential.mk access secret token expires).trimmed.isAnonymous = false :=
      Credential.isAnonymous_trimmed_eq_false.mpr named
    obtain ⟨c, made⟩ := prepared_of_signEither known (Prod.ext done rfl)
    rw [prepared_trimmed] at made
    exact reports_ne_nil_iff.mpr ⟨c, made⟩
  · intro rule queryRule token reported
    obtain ⟨c, made⟩ := reports_ne_nil_iff.mp reported
    rw [made]
    exact occurs_of_reports terms (prepared_tokens rule queryRule made made).1
  · intro rule queryRule token other reported again
    obtain ⟨c, made⟩ := reports_ne_nil_iff.mp reported
    obtain ⟨k, remade⟩ := reports_ne_nil_iff.mp again
    obtain ⟨_, texts, same⟩ := prepared_tokens rule queryRule made remade
    rw [made, remade]
    constructor
    · intro entries
      have messages := congrArg Log.Entry.message (List.cons.inj entries).1
      exact texts.mp ((String.append_right_inj _).mp messages)
    · intro forms
      rw [same forms]

/-- A link is signed with a token, and the token is reported. -/
theorem log_discloses_link :
    Text.trim linkCredential.accessKey ≠ "" ∧
      (∃ t, (linkProfile.presign linkCredential linkTerms).perform oldLink = (.ok (), t)) ∧
      ∃ reports, Discloses linkProfile true linkCredential.accessKey linkTerms oldLink.draft
        oldLink.payload reports ∧
        ∃ entry ∈ reports (some "token"), Occurs "token" entry.message := by
  have named : Text.trim linkCredential.accessKey ≠ "" := by decide +kernel
  have trimmed : Text.trim " token" = "token" := by decide +kernel
  have form : tokenForm true "token" = "token" := by decide +kernel
  have hashed : (linkProfile.queryRule.hash oldLink.draft oldLink.payload).1 =
      .ok Payload.unsignedMarker := rfl
  obtain ⟨t, done⟩ : ∃ t,
      (linkProfile.presign linkCredential linkTerms).perform oldLink = (.ok (), t) :=
    presign_succeeds (.inr rfl) (by decide +kernel) hashed rfl (by decide +kernel)
  obtain ⟨reports, discloses⟩ :=
    log_discloses linkProfile true named linkTerms oldLink.draft oldLink.payload
  have reported := discloses.signed "secret" (some " token") none (.new 0) (congrArg Prod.fst done)
  rw [Option.map_some, trimmed] at reported
  have occurs := discloses.occurs (.inl rfl) (.inr rfl) "token" reported
  rw [form] at occurs
  exact ⟨named, ⟨t, done⟩, reports, discloses, occurs⟩

/-- What may be logged in any case: the parts of the request, the marker of its payload, and the
terms. -/
def plainTexts (s : Session) (terms : SigningTerms) : List String :=
  [s.draft.method.text, s.draft.scheme.text, s.draft.authority.text, s.draft.path] ++
    s.draft.query.flatMap (fun pair => [pair.1, pair.2]) ++
    s.draft.headers.fields.flatMap (fun f => [f.name.text, Utf8.decodeLossy f.value.octets]) ++
    [s.payload.summary, Payload.unsignedMarker, terms.region, terms.service, terms.time.compact,
      terms.scope]

def sessionToken : String := "FwoGZXIvYXdzEXAMPLETOKEN"

/-- Keys that are good for a session. -/
def sessionCredential : Credential :=
  ⟨"AKIDEXAMPLE", "wJalrXUtnFEMIK7MDENG", some sessionToken, none⟩

/-- Its token is long, and is nowhere but in the credential and in the log. -/
theorem sessionToken_logged :
    12 ≤ sessionCredential.secretKey.length ∧ 12 ≤ sessionToken.length ∧
      (∀ text ∈ plainTexts plainDownload retryTerms,
        ¬Occurs sessionCredential.secretKey text ∧ ¬Occurs sessionToken text) ∧
      ∃ t, (storeProfile.sign sessionCredential retryTerms).perform plainDownload = (.ok (), t) ∧
        ∃ entry ∈ t.log, Occurs sessionToken entry.message := by
  have named : Text.trim sessionCredential.accessKey ≠ "" := by decide +kernel
  have form : tokenForm false (Text.trim sessionToken) = sessionToken := by decide +kernel
  obtain ⟨t, run⟩ : ∃ t, (storeProfile.sign sessionCredential retryTerms).perform plainDownload =
      (.ok (), t) :=
    sign_succeeds (.inl rfl) rfl (Credential.isAnonymous_trimmed_eq_false.mpr named) rfl
      (by decide +kernel) (Draft.isFieldText_hostText _) (isFieldText_compact _) (isFieldText_hex _)
      (by decide +kernel) (by decide +kernel)
  have logged := occurs_of_signEither (.inl rfl) (.inl rfl) named rfl (signEither_false _ _ _ ▸ run)
  rw [form] at logged
  exact ⟨by decide, by decide, by decide +kernel, t, run, logged⟩

end SigningProfile

end RequestSigning
