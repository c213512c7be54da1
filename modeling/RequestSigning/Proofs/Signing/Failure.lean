import RequestSigning.Proofs.Draft.HandedBack
import RequestSigning.Proofs.Http.Authority
import RequestSigning.Proofs.Signing.Fields
import RequestSigning.Proofs.Signing.Frame
import RequestSigning.Proofs.Signing.Query
import RequestSigning.Proofs.Signing.Unsigned

/-!
# Failed signatures

A head is restored from its draft as the failed step left it.  `signHead_handedBack_iff` says which
failures hand the request back as it was: those before anything is written, and those behind fields
that were there already.
-/

namespace RequestSigning

open Http

namespace Draft

/-- The fields that a signature sets before it looks at the payload. -/
def IsStamp (n : HeaderName) : Prop := n = .securityToken ∨ n = .host ∨ n = .date

instance (n : HeaderName) : Decidable (IsStamp n) := inferInstanceAs (Decidable (_ ∨ _))

/-- The draft with no other fields. -/
def stamped (d : Draft) : Draft :=
  { d with headers := ⟨d.headers.fields.filter fun f => IsStamp f.name⟩ }

theorem octets_stamped {n : HeaderName} (stamp : IsStamp n) (d : Draft) :
    d.stamped.headers.octets n = d.headers.octets n := by
  have both : ∀ f : HeaderField, (decide (f.name = n) && decide (IsStamp f.name)) =
      decide (f.name = n) := by
    intro f
    by_cases same : f.name = n
    · simp [same, stamp]
    · simp [same]
  simp only [stamped, Headers.octets, Headers.values, List.filter_filter, both]

theorem stamped_insert {n : HeaderName} (other : ¬IsStamp n) (d : Draft) (v : HeaderValue) :
    { d with headers := d.headers.insert n v }.stamped = d.stamped := by
  have both : ∀ f : HeaderField, (decide (IsStamp f.name) && decide (f.name ≠ n)) =
      decide (IsStamp f.name) := by
    intro f
    by_cases same : f.name = n
    · simp [same, other]
    · simp [same]
  simp only [stamped, Headers.insert, List.filter_append, List.filter_filter, both, List.filter_cons,
    decide_eq_false other, Bool.false_eq_true, if_false, List.filter_nil, List.append_nil]

theorem eq_of_stamped {d e : Draft} (same : d.stamped = e.stamped) :
    d = { e with headers := d.headers } :=
  congrArg (fun kept : Draft => { kept with headers := d.headers }) same

/-- Drafts that are the same but for their fields. -/
theorem bare_of_stamped {d e : Draft} (same : d.stamped = e.stamped) :
    ({ d with headers := .empty } : Draft) = { e with headers := .empty } :=
  congrArg (fun kept : Draft => { kept with headers := .empty }) same

end Draft

namespace SigningProfile

variable {p : SigningProfile} {cred : Credential} {terms : SigningTerms} {s t : Session} {e : Error}

theorem setToken_error (run : (setToken cred).perform s = (.error e, t)) :
    ∃ token, cred.sessionToken = some token ∧ ¬IsFieldText token ∧ t = s := by
  unfold setToken at run
  cases present : cred.sessionToken with
  | none =>
    rw [present] at run
    cases run
  | some token =>
    rw [present] at run
    exact ⟨token, rfl, Signing.setHeader_error run⟩

theorem setHost_ne_error : setHost.perform s ≠ (.error e, t) := by
  intro run
  rw [setHost, Signing.perform_bind_of_ok (Signing.perform_get s)] at run
  exact (Signing.setHeader_error run).1 s.draft.isFieldText_hostText

/-- A signature in the fields fails at a token that cannot be written, or with token, host and date
set. -/
theorem signWith_error (run : (p.signWith cred terms).perform s = (.error e, t)) :
    (∃ token, cred.sessionToken = some token ∧ ¬IsFieldText token ∧ t = s) ∨
      ∃ withToken withHost withDate,
        s.draft.headers.SetTo .securityToken cred.sessionToken true withToken ∧
        withToken.SetTo .host (some s.draft.hostText) false withHost ∧
        withHost.SetTo .date (some terms.time.compact) false withDate ∧
        (p.authorize cred terms).perform (s.withHeaders withDate) = (.error e, t) := by
  rw [signWith_eq] at run
  obtain token | ⟨_, _, token, run⟩ := Signing.bind_error_iff.mp run
  · exact .inl (setToken_error token)
  obtain ⟨withToken, tokenSet, rfl⟩ := setToken_ok_iff.mp token
  obtain host | ⟨_, _, host, run⟩ := Signing.bind_error_iff.mp run
  · exact absurd host setHost_ne_error
  obtain ⟨withHost, hostSet, rfl⟩ := setHost_ok_iff.mp host
  obtain date | ⟨_, _, date, run⟩ := Signing.bind_error_iff.mp run
  · exact absurd (isFieldText_compact _) (Signing.setHeader_error date).1
  obtain ⟨withDate, dateSet, rfl⟩ := Signing.setHeader_ok_iff.mp date
  exact .inr ⟨withToken, withHost, withDate, tokenSet, hostSet, dateSet, run⟩

theorem perform_signWith_of_unwritable {token : String} (present : cred.sessionToken = some token)
    (unwritable : ¬IsFieldText token) :
    ∃ e, (p.signWith cred terms).perform s = (.error e, s) := by
  rw [signWith_eq, Signing.perform_bind, setToken, present, Signing.perform_setHeader,
    HeaderValue.ofText?_of_unwritable true unwritable]
  exact ⟨_, rfl⟩

/-- Token, host and date are among the fields as a signature sets them. -/
structure HoldsStamp (d : Draft) (cred : Credential) (terms : SigningTerms) : Prop where
  token : ∀ token ∈ cred.sessionToken, d.headers.octets .securityToken = [Utf8.encode token]
  host : d.headers.octets .host = [Utf8.encode d.hostText]
  date : d.headers.octets .date = [Utf8.encode terms.time.compact]

/-- Setting what is there changes nothing. -/
theorem HoldsStamp.octets_eq {d : Draft} (held : HoldsStamp d cred terms)
    {withToken withHost withDate : Headers}
    (tokenSet : d.headers.SetTo .securityToken cred.sessionToken true withToken)
    (hostSet : withToken.SetTo .host (some d.hostText) false withHost)
    (dateSet : withHost.SetTo .date (some terms.time.compact) false withDate) (n : HeaderName) :
    withDate.octets n = d.headers.octets n := by
  have hostHeld : withToken.octets .host = [Utf8.encode d.hostText] := by
    rw [tokenSet.octets_other (by decide), held.host]
  have dateHeld : withHost.octets .date = [Utf8.encode terms.time.compact] := by
    rw [hostSet.octets_other (by decide), tokenSet.octets_other (by decide), held.date]
  calc withDate.octets n
    _ = withHost.octets n := dateSet.octets_of_held (by simpa using dateHeld) n
    _ = withToken.octets n := hostSet.octets_of_held (by simpa using hostHeld) n
    _ = d.headers.octets n := tokenSet.octets_of_held held.token n

/-- Behind a failed signature the fields are the same where the token cannot be written, or where
what was set had been there. -/
theorem signWith_error_octets_iff (keeps : p.Keeps Draft.stamped)
    (run : (p.signWith cred terms).perform s = (.error e, t)) :
    (∀ n, t.draft.headers.octets n = s.draft.headers.octets n) ↔
      (∃ token, cred.sessionToken = some token ∧ ¬IsFieldText token) ∨
        HoldsStamp s.draft cred terms ∧ ∀ n, ¬Draft.IsStamp n →
          t.draft.headers.octets n = s.draft.headers.octets n := by
  obtain ⟨token, present, unwritable, rfl⟩ | ⟨withToken, withHost, withDate, tokenSet, hostSet,
    dateSet, authorizing⟩ := signWith_error run
  · exact ⟨fun _ => .inl ⟨token, present, unwritable⟩, fun _ _ => rfl⟩
  have kept : t.draft.stamped = (s.withHeaders withDate).draft.stamped := by
    refine Signing.Keeps.of_perform (keeps_authorize ?_ ?_ keeps cred terms) authorizing
    · exact Draft.stamped_insert (by decide)
    · exact Draft.stamped_insert (by decide)
  have stamped : ∀ n, Draft.IsStamp n → t.draft.headers.octets n = withDate.octets n := by
    intro n stamp
    rw [← Draft.octets_stamped stamp, kept, Draft.octets_stamped stamp]
    rfl
  constructor
  · intro same
    right
    refine ⟨⟨?_, ?_, ?_⟩, fun n _ => same n⟩
    · intro token present
      rw [Option.mem_def.mp present] at tokenSet
      rw [← same, stamped _ (by decide), dateSet.octets_other (by decide),
        hostSet.octets_other (by decide), tokenSet.octets_self]
    · rw [← same, stamped _ (by decide), dateSet.octets_other (by decide),
        hostSet.octets_self]
    · rw [← same, stamped _ (by decide), dateSet.octets_self]
  · rintro (⟨token, present, unwritable⟩ | ⟨held, same⟩) n
    · rw [present] at tokenSet
      exact absurd tokenSet.isFieldText unwritable
    · by_cases stamp : Draft.IsStamp n
      · exact (stamped n stamp).trans (held.octets_eq tokenSet hostSet dateSet n)
      · exact same n stamp

/-! ### Failures behind token, host and date -/

/-- What stops a signature then and lets the other fields be: the payload has no hash, or its hash
cannot be written where a field asks for it, or the signature cannot be written and no hash has
taken the place of another value. -/
inductive Stops (p : SigningProfile) (d : Draft) (payload : Payload) (cred : Credential)
    (terms : SigningTerms) : Prop
  | payload {e : Error} (unread : (p.rule.hash d payload).1 = .error e)
  | hash {hash : String} (hashed : (p.rule.hash d payload).1 = .ok hash)
      (asked : d.headerText? .contentHash = some hashRequired) (unwritable : ¬IsFieldText hash)
  | signature {hash : String} (hashed : (p.rule.hash d payload).1 = .ok hash)
      (kept : ∀ text ∈ requestedHash d hash,
        d.headers.octets .contentHash = [Utf8.encode text])
      (unwritable : ¬(IsFieldText cred.accessKey ∧ IsFieldText terms.scope))

/-- Token, host and date make no difference to it. -/
theorem Stops.congr (builtin : p.rule.IsBuiltin) {d f : Draft} {payload : Payload}
    (same : d.headers.values .contentHash = f.headers.values .contentHash)
    (stops : p.Stops d payload cred terms) : p.Stops f payload cred terms := by
  have hash := (builtin.ignores_draft f d payload).1
  have text : f.headerText? .contentHash = d.headerText? .contentHash :=
    Headers.text?_congr same.symm
  cases stops with
  | payload unread => exact .payload (hash.trans unread)
  | hash hashed asked unwritable => exact .hash (hash.trans hashed) (text.trans asked) unwritable
  | signature hashed kept unwritable =>
    refine .signature (hash.trans hashed) ?_ unwritable
    rwa [← requestedHash_congr same, ← Headers.octets_congr same]

theorem authorize_error_octets_iff (builtin : p.rule.IsBuiltin) (hook : p.hook = .nothing)
    (run : (p.authorize cred terms).perform s = (.error e, t)) :
    (∀ n, t.draft.headers.octets n = s.draft.headers.octets n) ↔
      p.Stops s.draft s.payload cred terms := by
  obtain unread | ⟨hash, u, found, run⟩ := Signing.bind_error_iff.mp run
  · rw [Signing.perform_hashPayload, builtin.draft_eq, Prod.mk.injEq] at unread
    obtain ⟨failed, rfl⟩ := unread
    exact iff_of_true (fun _ => rfl) (.payload failed)
  obtain ⟨hashed, rfl⟩ := (Signing.hashPayload_ok_iff builtin s.draft).mp found
  obtain unset | ⟨_, _, replaced, run⟩ := Signing.bind_error_iff.mp run
  · obtain ⟨asked, unwritable, rfl⟩ := setHash_error unset
    exact iff_of_true (fun _ => rfl) (.hash hashed asked unwritable)
  obtain ⟨covered, hashSet, rfl⟩ := setHash_ok_iff.mp replaced
  rw [Signing.perform_bind_of_ok (perform_canonical _ _ _),
    Signing.perform_bind_of_ok (Signing.perform_signature _ _ _ _)] at run
  obtain unsigned | ⟨_, _, _, run⟩ := Signing.bind_error_iff.mp run
  · obtain ⟨unwritable, rfl⟩ := Signing.setHeader_error unsigned
    refine (hashSet.octets_eq_iff).trans ⟨fun kept => ?_, fun stops => ?_⟩
    · refine .signature hashed kept fun writable => unwritable ?_
      exact isFieldText_authorization writable.1 writable.2 _ _ _
    · cases stops with
      | payload unread =>
        rw [hashed] at unread
        cases unread
      | hash again asked unwritable =>
        obtain rfl := Except.ok.inj (hashed.symm.trans again)
        have asking := hashSet
        rw [requestedHash, if_pos asked] at asking
        exact absurd asking.isFieldText unwritable
      | signature again kept =>
        obtain rfl := Except.ok.inj (hashed.symm.trans again)
        exact kept
  · rw [perform_runHook hook] at run
    cases run

/-- Where token, host and date were there, the fields are the same behind these failures only. -/
theorem HoldsStamp.octets_iff (held : HoldsStamp s.draft cred terms) (builtin : p.rule.IsBuiltin)
    (hook : p.hook = .nothing) (run : (p.signWith cred terms).perform s = (.error e, t)) :
    (∀ n, t.draft.headers.octets n = s.draft.headers.octets n) ↔
      p.Stops s.draft s.payload cred terms := by
  obtain ⟨token, present, unwritable, _⟩ | ⟨withToken, withHost, withDate, tokenSet, hostSet,
    dateSet, authorizing⟩ := signWith_error run
  · have there := held.token token present
    exact absurd (Headers.isFieldText_of_mem_octets (there ▸ List.mem_singleton_self _)) unwritable
  have unchanged := held.octets_eq tokenSet hostSet dateSet
  have asked := values_contentHash tokenSet hostSet dateSet
  have stops := authorize_error_octets_iff builtin hook authorizing
  constructor
  · intro same
    exact (stops.mp fun n => (same n).trans (unchanged n).symm).congr builtin asked
  · intro stopped n
    exact (stops.mpr (stopped.congr builtin asked.symm) n).trans (unchanged n)

theorem Stops.fails (stops : p.Stops s.draft s.payload cred terms) (builtin : p.rule.IsBuiltin)
    (hook : p.hook = .nothing) : ∃ e t, (p.signWith cred terms).perform s = (.error e, t) := by
  cases run : (p.signWith cred terms).perform s with
  | mk result t =>
    cases result with
    | error e => exact ⟨e, t, rfl⟩
    | ok _ =>
      obtain ⟨hash, covered, signed, hashed, covers, signatureSet, _⟩ :=
        (signWith_ok_iff builtin hook).mp run
      cases stops with
      | payload unread =>
        rw [hashed] at unread
        cases unread
      | hash again asked unwritable =>
        obtain rfl := Except.ok.inj (hashed.symm.trans again)
        obtain ⟨_, _, _, _, _, _, hashSet⟩ := covers
        rw [requestedHash, if_pos asked] at hashSet
        exact absurd hashSet.isFieldText unwritable
      | signature _ _ unwritable =>
        exact absurd (writable_of_authorization signatureSet.isFieldText) unwritable

/-- What a signature in the fields leaves of the draft is all but the fields. -/
theorem draft_of_signWith (keeps : p.Keeps Draft.stamped) {r : Except Error Unit}
    (run : (p.signWith cred terms).perform s = (r, t)) :
    t.draft = { s.draft with headers := t.draft.headers } := by
  have bare : p.Keeps fun d => { d with headers := .empty } :=
    keeps.weaken fun _ _ => Draft.bare_of_stamped
  have kept : ({ t.draft with headers := .empty } : Draft) = { s.draft with headers := .empty } :=
    (keeps_signWith (fun _ _ => rfl) bare cred terms).of_perform run
  exact congrArg (fun d : Draft => { d with headers := t.draft.headers }) kept

/-- A failed signature in the query has an end that is too late or too early, or its pairs are
added. -/
theorem presignWith_error (keeps : p.Keeps Draft.stamped)
    (run : (p.presignWith cred terms).perform s = (.error e, t)) :
    terms.validitySeconds = .error e ∧ t = s ∨
      ∃ seconds hosted, terms.validitySeconds = .ok seconds ∧
        t.draft = { beforeSignature s.draft cred terms seconds hosted with
          headers := t.draft.headers } := by
  obtain valid | ⟨seconds, _, valid, run⟩ := Signing.bind_error_iff.mp run
  · rw [Signing.perform_ofExcept, Prod.mk.injEq] at valid
    exact .inl ⟨valid.1, valid.2.symm⟩
  rw [Signing.perform_ofExcept, Prod.mk.injEq] at valid
  obtain ⟨valid, rfl⟩ := valid
  obtain host | ⟨_, _, host, run⟩ := Signing.bind_error_iff.mp run
  · exact absurd host setHost_ne_error
  obtain ⟨hosted, _, rfl⟩ := setHost_ok_iff.mp host
  rw [Signing.perform_bind_of_ok (perform_addPresignPairs _ _ _ _)] at run
  obtain hashed | ⟨hash, _, _, run⟩ := Signing.bind_error_iff.mp run
  · have kept := (Signing.keeps_hashPayload keeps.queryRule).of_perform hashed
    exact .inr ⟨seconds, hosted, valid, Draft.eq_of_stamped kept⟩
  · cases run

/-- The session in which the draft of a head is signed. -/
def startOf (head : Head) (authority : Authority) (payload : Payload) (cache : KeyCache) :
    Session :=
  ⟨Draft.ofUri head authority, payload, cache, [], []⟩

/-- The failures that hand the request back as it was. -/
inductive HandsBack (p : SigningProfile) (head : Head) (payload : Payload) (terms : SigningTerms)
    (cache : KeyCache) : Bool → Option Credential → Prop
  /-- There is no server to sign for, and nothing in the uri. -/
  | nowhere {inQuery : Bool} {cred : Option Credential} (none : head.uri.authority? = none)
      (path : head.uri.path = "/") (pairs : head.uri.pairs = []) :
      HandsBack p head payload terms cache inQuery cred
  /-- The signature would end too late or too early. -/
  | expiration {c : Credential} {authority : Authority} {e : Error}
      (restorable : Draft.IsRestorable head authority) (named : Text.trim c.accessKey ≠ "")
      (invalid : terms.validitySeconds = .error e) :
      HandsBack p head payload terms cache true (some c)
  /-- The first field cannot be written. -/
  | token {c : Credential} {authority : Authority} {token : String}
      (restorable : Draft.IsRestorable head authority) (named : Text.trim c.accessKey ≠ "")
      (present : c.trimmed.sessionToken = some token) (unwritable : ¬IsFieldText token) :
      HandsBack p head payload terms cache false (some c)
  /-- Token, host and date had been there, and no other field was written. -/
  | held {c : Credential} {authority : Authority} (builtin : p.rule.IsBuiltin)
      (hook : p.hook = .nothing) (restorable : Draft.IsRestorable head authority)
      (named : Text.trim c.accessKey ≠ "")
      (stamp : HoldsStamp (Draft.ofUri head authority) c.trimmed terms)
      (stops : p.Stops (Draft.ofUri head authority) payload c.trimmed terms) :
      HandsBack p head payload terms cache false (some c)
  /-- They had been there, and a rule or a hook of somebody else has left the other fields alone. -/
  | custom {c : Credential} {authority : Authority} {e : Error} {t : Session}
      (foreign : ¬(p.rule.IsBuiltin ∧ p.hook = .nothing))
      (restorable : Draft.IsRestorable head authority) (named : Text.trim c.accessKey ≠ "")
      (stamp : HoldsStamp (Draft.ofUri head authority) c.trimmed terms)
      (run : (p.sign c terms).perform (startOf head authority payload cache) = (.error e, t))
      (same : ∀ n, ¬Draft.IsStamp n →
        t.draft.headers.octets n = head.headers.octets n) :
      HandsBack p head payload terms cache false (some c)

section

variable {head left : Head} {authority : Authority} {payload : Payload} {cache : KeyCache}
  {c : Credential}

theorem signWith_handedBack_iff (server : head.uri.authority? = some authority)
    (named : Text.trim c.accessKey ≠ "") (keeps : p.Keeps Draft.stamped)
    (run : (p.sign c terms).perform (startOf head authority payload cache) = (.error e, t)) :
    head.HandedBack (t.draft.restore left).2 ↔
      HandsBack p head payload terms cache false (some c) := by
  have signed := run
  rw [sign_of_named (Credential.isAnonymous_trimmed_eq_false.mpr named)] at signed
  have octets := signWith_error_octets_iff keeps signed
  rw [draft_of_signWith keeps signed]
  refine (Draft.handedBack_fields_iff server left t.draft.headers).trans ?_
  constructor
  · rintro ⟨restorable, same⟩
    obtain ⟨token, present, unwritable⟩ | ⟨stamp, late⟩ := octets.mp same
    · exact .token restorable named present unwritable
    · by_cases own : p.rule.IsBuiltin ∧ p.hook = .nothing
      · have stops := (stamp.octets_iff own.1 own.2 signed).mp same
        exact .held own.1 own.2 restorable named stamp stops
      · exact .custom own restorable named stamp run late
  · intro hands
    cases hands with
    | nowhere none =>
      rw [server] at none
      cases none
    | token restorable _ present unwritable =>
      obtain rfl := Option.some.inj (server.symm.trans restorable.named)
      exact ⟨restorable, octets.mpr (.inl ⟨_, present, unwritable⟩)⟩
    | held builtin hook restorable _ stamp stops =>
      obtain rfl := Option.some.inj (server.symm.trans restorable.named)
      exact ⟨restorable, (stamp.octets_iff builtin hook signed).mpr stops⟩
    | custom _ restorable _ stamp again same =>
      obtain rfl := Option.some.inj (server.symm.trans restorable.named)
      rw [run] at again
      cases again
      exact ⟨restorable, octets.mpr (.inr ⟨stamp, same⟩)⟩

theorem presignWith_handedBack_iff (server : head.uri.authority? = some authority)
    (named : Text.trim c.accessKey ≠ "") (keeps : p.Keeps Draft.stamped)
    (run : (p.presign c terms).perform (startOf head authority payload cache) = (.error e, t)) :
    head.HandedBack (t.draft.restore left).2 ↔
      HandsBack p head payload terms cache true (some c) := by
  rw [presign_of_named (Credential.isAnonymous_trimmed_eq_false.mpr named)] at run
  obtain ⟨invalid, rfl⟩ | ⟨seconds, hosted, valid, added⟩ := presignWith_error keeps run
  · refine (Draft.handedBack_fields_iff server left head.headers).trans ?_
    constructor
    · rintro ⟨restorable, _⟩
      exact .expiration restorable named invalid
    · intro hands
      cases hands with
      | nowhere none =>
        rw [server] at none
        cases none
      | expiration restorable _ _ =>
        obtain rfl := Option.some.inj (server.symm.trans restorable.named)
        exact ⟨restorable, fun _ => rfl⟩
  · rw [added]
    constructor
    · intro handed
      have member : ("X-Amz-Algorithm", algorithm) ∈
          presignPairs c.trimmed terms hosted seconds := by
        simp [presignPairs]
      exact absurd handed (Draft.not_handedBack_of_added server member (by decide) t.draft.headers)
    · intro hands
      cases hands with
      | nowhere none =>
        rw [server] at none
        cases none
      | expiration _ _ invalid =>
        rw [valid] at invalid
        cases invalid

theorem signEither_handedBack_iff {inQuery : Bool} (server : head.uri.authority? = some authority)
    (named : Text.trim c.accessKey ≠ "") (keeps : p.Keeps Draft.stamped)
    (run : (p.signEither inQuery c terms).perform (startOf head authority payload cache) =
      (.error e, t)) :
    head.HandedBack (t.draft.restore left).2 ↔
      HandsBack p head payload terms cache inQuery (some c) := by
  cases inQuery with
  | true =>
    rw [signEither_true] at run
    exact presignWith_handedBack_iff server named keeps run
  | false =>
    rw [signEither_false] at run
    exact signWith_handedBack_iff server named keeps run

theorem signHead_none (server : head.uri.authority? = some authority) (inQuery : Bool) :
    p.signHead inQuery head payload none terms cache =
      giveBack (.ok ()) (startOf head authority payload cache)
        { head with uri := .root, headers := .empty } := by
  rw [signHead, Draft.take, server]
  rfl

theorem signHead_some (server : head.uri.authority? = some authority) (inQuery : Bool) :
    p.signHead inQuery head payload (some c) terms cache =
      let done := (p.signEither inQuery c terms).perform (startOf head authority payload cache)
      giveBack done.1 done.2 { head with uri := .root, headers := .empty } := by
  rw [signHead, Draft.take, server]
  rfl

theorem giveBack_error {r : Except Error Unit}
    (server : head.uri.authority? = some authority)
    (failed : (giveBack r s left).result = .error e)
    (handed : head.HandedBack (giveBack r s left).head) : r = .error e := by
  have restored := congrArg Prod.fst (Draft.restore_ok_of_handedBack server handed)
  simp only [giveBack, restored] at failed
  exact failed

end

/-- A signature that succeeds is none of these failures. -/
theorem HandsBack.fails {head : Head} {authority : Authority} {payload : Payload}
    {cache : KeyCache} {inQuery : Bool} {c : Credential}
    (hands : HandsBack p head payload terms cache inQuery (some c))
    (server : head.uri.authority? = some authority) :
    Text.trim c.accessKey ≠ "" ∧ ∃ e t, (p.signEither inQuery c terms).perform
      (startOf head authority payload cache) = (.error e, t) := by
  cases hands with
  | nowhere none =>
    rw [server] at none
    cases none
  | @expiration _ _ e _ named invalid =>
    refine ⟨named, e, startOf head authority payload cache, ?_⟩
    rw [signEither_true, presign_of_named (Credential.isAnonymous_trimmed_eq_false.mpr named),
      presignWith, Signing.perform_bind, Signing.perform_ofExcept, invalid]
  | token restorable named present unwritable =>
    rw [signEither_false, sign_of_named (Credential.isAnonymous_trimmed_eq_false.mpr named)]
    obtain ⟨e, run⟩ := perform_signWith_of_unwritable present unwritable
    exact ⟨named, e, startOf head authority payload cache, run⟩
  | held builtin hook restorable named stamp stops =>
    obtain rfl := Option.some.inj (server.symm.trans restorable.named)
    rw [signEither_false, sign_of_named (Credential.isAnonymous_trimmed_eq_false.mpr named)]
    exact ⟨named, Stops.fails (s := startOf head authority payload cache) stops builtin hook⟩
  | @custom _ other e t _ restorable named stamp run same =>
    obtain rfl := Option.some.inj (server.symm.trans restorable.named)
    rw [signEither_false]
    exact ⟨named, e, t, run⟩

/-- A failed call hands the request back exactly where nothing was to be lost: the uri survives
being written again, and the signature stopped before it wrote anything, or what it wrote was there
before. -/
theorem signHead_handedBack_iff {p : SigningProfile} (keeps : p.Keeps Draft.stamped)
    {inQuery : Bool} {head : Head} {payload : Payload} {cred : Option Credential}
    {terms : SigningTerms} {cache : KeyCache} {e : Error}
    (failed : (p.signHead inQuery head payload cred terms cache).result = .error e) :
    head.HandedBack (p.signHead inQuery head payload cred terms cache).head ↔
      HandsBack p head payload terms cache inQuery cred := by
  cases server : head.uri.authority? with
  | none =>
    have left : (p.signHead inQuery head payload cred terms cache).head =
        { head with uri := .root } := by
      rw [signHead, Draft.take, server]
    rw [left]
    constructor
    · intro handed
      exact .nowhere server handed.path.symm handed.pairs.symm
    · intro hands
      cases hands with
      | nowhere _ path pairs =>
        have schemeless : head.uri.scheme? = none := by
          cases written : head.uri with
          | absolute =>
            rw [written] at server
            cases server
          | empty | relative _ | remote _ => rfl
        exact ⟨rfl, schemeless.symm, server.symm, path.symm, pairs.symm, fun _ => rfl⟩
      | expiration restorable | token restorable | held _ _ restorable | custom _ restorable =>
        have named := restorable.named
        rw [server] at named
        cases named
  | some authority =>
    constructor
    · intro handed
      cases cred with
      | none =>
        rw [signHead_none server] at failed handed
        cases giveBack_error server failed handed
      | some c =>
        rw [signHead_some server] at failed handed
        have stopped := giveBack_error server failed handed
        cases run : (p.signEither inQuery c terms).perform
            (startOf head authority payload cache) with
        | mk result t =>
          rw [run] at stopped handed
          obtain rfl := stopped
          have named : Text.trim c.accessKey ≠ "" := by
            intro anonymous
            obtain ⟨_, skipped⟩ := perform_anonymous inQuery anonymous terms
              (startOf head authority payload cache)
            rw [run] at skipped
            cases skipped
          exact (signEither_handedBack_iff server named keeps run).mp handed
    · intro hands
      cases cred with
      | none =>
        cases hands with
        | nowhere none =>
          rw [server] at none
          cases none
      | some c =>
        obtain ⟨named, e, t, run⟩ := hands.fails server
        rw [signHead_some server, run]
        exact (signEither_handedBack_iff server named keeps run).mpr hands

/-- A link that would be good for a second more than a week. -/
def lateTerms : SigningTerms := storeProfile.terms .epoch (some ⟨604801000000000, by decide⟩)

/-- It is not signed. -/
def lateLink : SignedHead :=
  storeProfile.signHead true plainGet .empty (some linkCredential) lateTerms (.new 1)

theorem signHead_handedBack_lateLink :
    storeProfile.Keeps Draft.stamped ∧ (∃ e, lateLink.result = .error e) ∧
      plainGet.HandedBack lateLink.head := by
  have keeps : storeProfile.Keeps Draft.stamped := keeps_of_isBuiltin (.inl rfl) (.inl rfl) rfl
  have failed : lateLink.result =
      .error (SigningTerms.expiresTooLate ⟨604801, 0, by decide⟩) := rfl
  have invalid : lateTerms.validitySeconds =
      .error (SigningTerms.expiresTooLate ⟨604801, 0, by decide⟩) := rfl
  have restorable : Draft.IsRestorable plainGet (.named "example.org") := by
    refine ⟨rfl, rfl, by decide +kernel, ⟨plainTarget, rfl, ?_, ?_⟩⟩
    · decide +kernel
    · decide +kernel
  exact ⟨keeps, ⟨_, failed⟩, (signHead_handedBack_iff keeps failed).mpr
    (.expiration restorable (by decide +kernel) invalid)⟩

/-- A request that names no server. -/
def placeless : Head := { plainGet with uri := .relative plainTarget }

/-- It is not signed either, but its uri is gone. -/
theorem signHead_loses_placeless :
    (storeProfile.signHead false placeless .empty (some linkCredential)
        (storeProfile.terms .epoch none) (.new 1)).result = .error Draft.missingAuthority ∧
      (storeProfile.signHead false placeless .empty (some linkCredential)
        (storeProfile.terms .epoch none) (.new 1)).head.uri.text = "/" ∧
      ¬placeless.HandedBack (storeProfile.signHead false placeless .empty (some linkCredential)
        (storeProfile.terms .epoch none) (.new 1)).head := by
  refine ⟨rfl, rfl, fun handed => ?_⟩
  have path : "/" = "/a" := handed.path
  exact absurd path (by decide)

end SigningProfile

end RequestSigning
