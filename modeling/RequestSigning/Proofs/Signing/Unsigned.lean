import RequestSigning.Proofs.Credential
import RequestSigning.Proofs.Draft.Restore
import RequestSigning.Proofs.Signing.Steps
import RequestSigning.Signing.Head

/-!
# Requests without a usable credential

Such a request is only taken and restored.  `signAt_unchanged_iff` says which requests that leaves as
they are: those of a server with a scheme, whose query is written the way it would be written again,
and which name a content hash or are to be signed in the query.
-/

namespace RequestSigning

open Http

namespace Http

/-- As far as can be seen from outside, one head is the other. -/
structure Head.Unchanged (before after : Head) : Prop where
  method : after.method = before.method
  uri : after.uri.text = before.uri.text
  headers : ∀ n, after.headers.values n = before.headers.values n

end Http

namespace Draft

/-- A head whose draft was taken and restored. -/
def passed (head : Head) : Except Error Unit × Head :=
  match take head with
  | (.error e, left) => (.error e, left)
  | (.ok d, left) => d.restore left

theorem passed_of_none {head : Head} (nowhere : head.uri.authority? = none) :
    passed head = (.error missingAuthority, { head with uri := .root }) := by
  rw [passed, take, nowhere]

theorem passed_of_some {head : Head} {authority : Authority}
    (named : head.uri.authority? = some authority) :
    passed head = (ofUri head authority).restore { head with uri := .root, headers := .empty } := by
  rw [passed, take, named]

/-- Of a uri with an authority everything comes back but the text of its query. -/
theorem passed_ok_iff {head after : Head} {authority : Authority}
    (named : head.uri.authority? = some authority) :
    passed head = (.ok (), after) ↔
      ∃ t : Target, t.path = (head.uri.target?.getD .root).path ∧
        t.query = queryOf (head.uri.target?.getD .root).pairs ∧
        (Utf8.encode t.text).length ≤ maxUriLength ∧
        after = { head with uri := .absolute (head.uri.scheme?.getD .http) authority t } := by
  rw [passed_of_some named, restore_ok_iff (hasTargetPath_ofUri head authority)]
  rfl

end Draft

namespace SigningProfile

variable {p : SigningProfile} {cred : Option Credential}

theorem perform_anonymous {c : Credential} (inQuery : Bool)
    (anonymous : Text.trim c.accessKey = "") (terms : SigningTerms) (s : Session) :
    ∃ entries, (p.signEither inQuery c terms).perform s =
      (.ok (), { s with log := s.log ++ entries }) := by
  have skipped := Credential.isAnonymous_trimmed.mpr anonymous
  cases inQuery with
  | true => exact ⟨_, by rw [signEither_true, presign, if_pos skipped]; rfl⟩
  | false => exact ⟨_, by rw [signEither_false, sign, if_pos skipped]; rfl⟩

theorem giveBack_ok (s : Session) (left : Head) :
    ((giveBack (.ok ()) s left).result, (giveBack (.ok ()) s left).head) = s.draft.restore left := by
  unfold giveBack
  obtain ⟨result, head⟩ := s.draft.restore left
  cases result <;> rfl

theorem signHead_passed (inQuery : Bool) (head : Head) (payload : Payload) (terms : SigningTerms)
    (cache : KeyCache) (unusable : ∀ c ∈ cred, Text.trim c.accessKey = "") :
    ((p.signHead inQuery head payload cred terms cache).result,
      (p.signHead inQuery head payload cred terms cache).head) = Draft.passed head := by
  unfold signHead Draft.passed
  obtain ⟨taken, left⟩ := Draft.take head
  cases taken with
  | error e => rfl
  | ok d =>
    cases cred with
    | none => exact giveBack_ok ⟨d, payload, cache, [], []⟩ left
    | some c =>
      obtain ⟨entries, done⟩ := perform_anonymous (p := p) inQuery (unusable c rfl) terms
        ⟨d, payload, cache, [], []⟩
      dsimp only
      rw [done]
      exact giveBack_ok _ left

/-- Fields that name no hash come back with one. -/
theorem declareUnsigned_values_iff (h : Headers) :
    (∀ n, (declareUnsigned h).values n = h.values n) ↔ h.contains .contentHash = true := by
  unfold declareUnsigned
  by_cases named : h.contains .contentHash = true
  · rw [if_pos named]
    exact ⟨fun _ => named, fun _ _ => rfl⟩
  · rw [if_neg named]
    constructor
    · intro same
      have declared := same .contentHash
      rw [Headers.values_insert, if_pos rfl] at declared
      rw [Headers.contains, Headers.get?, ← declared]
      rfl
    · intro contained
      exact absurd contained named

/-- The head that is signed. -/
def declared (expiresIn : Option Duration) (head : Head) : Head :=
  if expiresIn.isSome then head else { head with headers := declareUnsigned head.headers }

theorem declared_values_iff (expiresIn : Option Duration) (head : Head) :
    (∀ n, (declared expiresIn head).headers.values n = head.headers.values n) ↔
      expiresIn.isSome = true ∨ head.headers.contains .contentHash = true := by
  unfold declared
  by_cases bounded : expiresIn.isSome = true
  · rw [if_pos bounded]
    exact ⟨fun _ => .inl bounded, fun _ _ => rfl⟩
  · rw [if_neg bounded, declareUnsigned_values_iff]
    exact ⟨.inr, fun either => either.resolve_left bounded⟩

theorem text_absolute_ne_remote (authority : Authority) (t : Target) :
    (Uri.absolute .http authority t).text ≠ (Uri.remote authority).text := by
  intro same
  have lengths := congrArg String.length same
  have scheme : Scheme.http.text.length = 4 := by decide
  simp only [Uri.text, String.length_append, scheme] at lengths
  omega

/-- Without a usable credential the request is left alone exactly where its uri has a scheme and an
authority and a query in the form that pairs are written in, and where a field names the content
hash or an expiration asks for a signature in the query. -/
theorem signAt_unchanged_iff (p : SigningProfile) (now : Instant) (head : Head)
    {cred : Option Credential} (expiresIn : Option Duration) (cache : KeyCache)
    (unusable : ∀ c ∈ cred, Text.trim c.accessKey = "") :
    (p.signAt now head cred expiresIn cache).result = .ok () ∧
        head.Unchanged (p.signAt now head cred expiresIn cache).head ↔
      (expiresIn.isSome = true ∨ head.headers.contains .contentHash = true) ∧
        ∃ scheme authority target, head.uri = .absolute scheme authority target ∧
          target.query = Draft.queryOf target.pairs ∧
          (Utf8.encode target.text).length ≤ maxUriLength := by
  have passed : ((p.signAt now head cred expiresIn cache).result,
      (p.signAt now head cred expiresIn cache).head) = Draft.passed (declared expiresIn head) :=
    signHead_passed _ _ _ _ _ unusable
  have sameUri : (declared expiresIn head).uri = head.uri := by
    unfold declared
    split <;> rfl
  have sameMethod : (declared expiresIn head).method = head.method := by
    unfold declared
    split <;> rfl
  constructor
  · rintro ⟨done, method, uri, headers⟩
    have restored : Draft.passed (declared expiresIn head) =
        (.ok (), (p.signAt now head cred expiresIn cache).head) := by
      rw [← passed, done]
    cases written : head.uri with
    | empty =>
      rw [Draft.passed_of_none (by rw [sameUri, written]; rfl)] at restored
      cases restored
    | relative target =>
      rw [Draft.passed_of_none (by rw [sameUri, written]; rfl)] at restored
      cases restored
    | remote authority =>
      have named : (declared expiresIn head).uri.authority? = some authority := by
        rw [sameUri, written]
        rfl
      obtain ⟨t, _, _, _, after⟩ := (Draft.passed_ok_iff named).mp restored
      rw [after, sameUri, written] at uri
      exact absurd uri (text_absolute_ne_remote authority t)
    | absolute scheme authority target =>
      have named : (declared expiresIn head).uri.authority? = some authority := by
        rw [sameUri, written]
        rfl
      obtain ⟨t, path, query, short, after⟩ := (Draft.passed_ok_iff named).mp restored
      rw [sameUri, written] at path query after
      rw [after, written] at uri
      have text : t.text = target.text := by
        simpa only [Uri.text, Uri.scheme?, Option.getD_some, String.append_right_inj] using uri
      obtain rfl := Target.eq_of_text path text
      refine ⟨(declared_values_iff expiresIn head).mp ?_, scheme, authority, t, rfl, query, short⟩
      rw [after] at headers
      exact headers
  · rintro ⟨declares, scheme, authority, target, written, query, short⟩
    have named : (declared expiresIn head).uri.authority? = some authority := by
      rw [sameUri, written]
      rfl
    have restored : Draft.passed (declared expiresIn head) =
        (.ok (), declared expiresIn head) := by
      refine (Draft.passed_ok_iff named).mpr ⟨target, ?_, ?_, short, ?_⟩
      · rw [sameUri, written]
        rfl
      · rw [sameUri, written]
        exact query
      · rw [sameUri, written, Uri.scheme?, Option.getD_some, ← written, ← sameUri]
    rw [restored] at passed
    obtain ⟨result, after⟩ := Prod.mk.inj passed
    refine ⟨result, ?_, ?_, ?_⟩
    · rw [after, sameMethod]
    · rw [after, sameUri]
    · rw [after]
      exact (declared_values_iff expiresIn head).mpr declares

/-- A credential whose access key is nothing but blanks. -/
def blankCredential : Credential := ⟨" \n\u2003", "secret", some "token", none⟩

/-- A request with a flag and a `%XX` in its query, and fields of an earlier signature. -/
def flaggedGet : Head where
  method := .get
  uri := .absolute .https (.named "user@example.org:8443") ⟨"/a%20b", some "acl&b=%2B", by decide⟩
  headers := ⟨[⟨.contentHash, unsignedValue⟩,
    ⟨.authorization, ⟨Utf8.encode "old", true, by decide⟩⟩]⟩

theorem signAt_unchanged_flaggedGet :
    (∀ c ∈ some blankCredential, Text.trim c.accessKey = "") ∧
      ((SigningProfile.new "s3" "us-east-1").signAt .epoch flaggedGet (some blankCredential) none
        (.new 1)).result = .ok () ∧
      flaggedGet.Unchanged ((SigningProfile.new "s3" "us-east-1").signAt .epoch flaggedGet
        (some blankCredential) none (.new 1)).head := by
  have unusable : ∀ c ∈ some blankCredential, Text.trim c.accessKey = "" := by
    intro c same
    cases same
    decide +kernel
  refine ⟨unusable, (signAt_unchanged_iff _ _ _ _ _ unusable).mpr ⟨.inr (by decide +kernel),
    .https, .named "user@example.org:8443", ⟨"/a%20b", some "acl&b=%2B", by decide⟩, rfl, ?_, ?_⟩⟩
  · decide +kernel
  · decide +kernel

def plainTarget : Target := ⟨"/a", some "b=c", by decide⟩

/-- A request without any field. -/
def plainGet : Head where
  method := .get
  uri := .absolute .https (.named "example.org") plainTarget
  headers := .empty

/-- There is no credential, and still a field is added. -/
theorem signAt_changed_plainGet :
    ((SigningProfile.new "s3" "us-east-1").signAt .epoch plainGet none none (.new 1)).head =
        { plainGet with headers := ⟨[⟨.contentHash, unsignedValue⟩]⟩ } ∧
      ¬ plainGet.Unchanged
        ((SigningProfile.new "s3" "us-east-1").signAt .epoch plainGet none none (.new 1)).head := by
  refine ⟨rfl, fun same => ?_⟩
  have none := same.headers .contentHash
  cases none

end SigningProfile

end RequestSigning
