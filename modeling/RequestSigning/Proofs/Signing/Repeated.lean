import RequestSigning.Proofs.Credential
import RequestSigning.Proofs.Http.Authority
import RequestSigning.Proofs.Signing.Fields
import RequestSigning.Proofs.Signing.Frame
import RequestSigning.Proofs.Signing.Query

/-!
# Signing a request again

A signature in the fields takes the place of the one before; a signature in the query is added, and
neither takes the other away.  `signatures_of_signAll` counts them behind any run, and
`carriesOne_iff`: there is one behind a run of signatures in the fields and behind a single call.
-/

namespace RequestSigning

open Http

namespace Draft

def fieldSignatures (d : Draft) : Nat := (d.headers.values .authorization).length

def querySignatures (d : Draft) : Nat := d.query.countP (·.1 = "X-Amz-Signature")

/-- How many signatures there are in the fields and in the query. -/
def signatures (d : Draft) : Nat × Nat := (d.fieldSignatures, d.querySignatures)

def CarriesOne (d : Draft) : Prop := d.signatures = (1, 0) ∨ d.signatures = (0, 1)

theorem fieldSignatures_insert_other {n : HeaderName} (other : n ≠ .authorization) (d : Draft)
    (v : HeaderValue) :
    { d with headers := d.headers.insert n v }.fieldSignatures = d.fieldSignatures := by
  simp [fieldSignatures, other]

theorem querySignatures_addPairs (d : Draft) (pairs : List (String × String)) :
    (d.addPairs pairs).querySignatures =
      d.querySignatures + pairs.countP (·.1 = "X-Amz-Signature") :=
  List.countP_append

end Draft

/-- One call that signs a request, with all that it is given. -/
structure SigningCall where
  profile : SigningProfile
  inQuery : Bool
  cred : Credential
  terms : SigningTerms
  payload : Payload
  cache : KeyCache

namespace SigningCall

def sign (call : SigningCall) (d : Draft) : Except Error Draft :=
  match (call.profile.signEither call.inQuery call.cred call.terms).perform
      ⟨d, call.payload, call.cache, [], []⟩ with
  | (.ok (), s) => .ok s.draft
  | (.error e, _) => .error e

/-- There is an access key, and rules and hook neither add signatures nor take any away. -/
structure IsPlain (call : SigningCall) : Prop where
  named : Text.trim call.cred.accessKey ≠ ""
  keeps : call.profile.Keeps Draft.signatures

end SigningCall

/-- One call after the other, each on the request that the one before leaves. -/
def signAll (calls : List SigningCall) (d : Draft) : Except Error Draft :=
  calls.foldlM (fun d call => call.sign d) d

namespace SigningProfile

variable {p : SigningProfile} {cred : Credential} {terms : SigningTerms} {s t : Session}

/-- The signature is the only value of its field. -/
theorem fieldSignatures_of_signWith (keeps : p.Keeps Draft.signatures)
    (run : (p.signWith cred terms).perform s = (.ok (), t)) : t.draft.fieldSignatures = 1 := by
  -- What is in the field before does not matter, so the steps before may have left anything.
  rw [signWith_eq_prepareFields] at run
  obtain ⟨c, _, _, run⟩ := Signing.bind_ok_iff.mp run
  rw [Signing.perform_bind_of_ok (Signing.perform_signature _ _ _ _)] at run
  obtain ⟨_, _, authorized, run⟩ := Signing.bind_ok_iff.mp run
  obtain ⟨signed, signatureSet, rfl⟩ := Signing.setHeader_ok_iff.mp authorized
  have kept := (keeps_runHook keeps.hook _ terms).of_perform run
  obtain ⟨v, _, _, single⟩ := signatureSet.values_self
  exact (congrArg Prod.fst kept).trans (congrArg List.length single)

theorem querySignatures_of_signWith (keeps : p.Keeps Draft.signatures)
    (run : (p.signWith cred terms).perform s = (.ok (), t)) :
    t.draft.querySignatures = s.draft.querySignatures := by
  have query : p.Keeps Draft.querySignatures := keeps.weaken fun _ _ => congrArg Prod.snd
  exact (keeps_signWith (fun _ _ => rfl) query cred terms).of_perform run

theorem fieldSignatures_of_presignWith (keeps : p.Keeps Draft.signatures)
    (run : (p.presignWith cred terms).perform s = (.ok (), t)) :
    t.draft.fieldSignatures = s.draft.fieldSignatures := by
  have fields : p.Keeps Draft.fieldSignatures := keeps.weaken fun _ _ => congrArg Prod.fst
  have host := Draft.fieldSignatures_insert_other (n := .host) (by decide)
  exact (keeps_presignWith host (fun _ _ => rfl) fields cred terms).of_perform run

theorem countP_presignPairs (cred : Credential) (terms : SigningTerms) (h : Headers)
    (seconds : Int) :
    (presignPairs cred terms h seconds).countP (·.1 = "X-Amz-Signature") = 0 := by
  unfold presignPairs
  cases cred.sessionToken <;> simp

/-- The signature is one pair more. -/
theorem querySignatures_of_presignWith (keeps : p.Keeps Draft.signatures)
    (run : (p.presignWith cred terms).perform s = (.ok (), t)) :
    t.draft.querySignatures = s.draft.querySignatures + 1 := by
  obtain ⟨seconds, _, valid, run⟩ := Signing.bind_ok_iff.mp run
  rw [Signing.perform_ofExcept, Prod.mk.injEq] at valid
  obtain ⟨_, rfl⟩ := valid
  obtain ⟨_, _, host, run⟩ := Signing.bind_ok_iff.mp run
  obtain ⟨hosted, _, rfl⟩ := setHost_ok_iff.mp host
  rw [Signing.perform_bind_of_ok (perform_addPresignPairs _ _ _ _)] at run
  obtain ⟨hash, u, hashed, run⟩ := Signing.bind_ok_iff.mp run
  rw [Signing.perform_bind_of_ok (perform_canonical _ _ _),
    Signing.perform_bind_of_ok (Signing.perform_signature _ _ _ _), Signing.perform_addPairs] at run
  have kept : u.draft.querySignatures =
      (beforeSignature s.draft cred terms seconds hosted).querySignatures :=
    congrArg Prod.snd ((Signing.keeps_hashPayload keeps.queryRule).of_perform hashed)
  cases run
  calc (u.draft.addPairs [("X-Amz-Signature", _)]).querySignatures
    _ = u.draft.querySignatures + 1 := Draft.querySignatures_addPairs _ _
    _ = s.draft.querySignatures + 1 := by
      rw [kept, beforeSignature, Draft.querySignatures_addPairs, countP_presignPairs]
      rfl

end SigningProfile

namespace SigningCall

variable {call : SigningCall} {d e : Draft}

theorem sign_ok_iff : call.sign d = .ok e ↔
    ∃ t, (call.profile.signEither call.inQuery call.cred call.terms).perform
      ⟨d, call.payload, call.cache, [], []⟩ = (.ok (), t) ∧ t.draft = e := by
  unfold sign
  cases run : (call.profile.signEither call.inQuery call.cred call.terms).perform
      ⟨d, call.payload, call.cache, [], []⟩ with
  | mk result t => cases result <;> simp

theorem signatures_of_fields (plain : call.IsPlain) (inFields : call.inQuery = false)
    (signed : call.sign d = .ok e) : e.signatures = (1, d.querySignatures) := by
  obtain ⟨t, run, rfl⟩ := sign_ok_iff.mp signed
  rw [inFields, SigningProfile.signEither_false, SigningProfile.sign_of_named
    (Credential.isAnonymous_trimmed_eq_false.mpr plain.named)] at run
  exact Prod.ext (SigningProfile.fieldSignatures_of_signWith plain.keeps run)
    (SigningProfile.querySignatures_of_signWith plain.keeps run)

theorem signatures_of_query (plain : call.IsPlain) (inQuery : call.inQuery = true)
    (signed : call.sign d = .ok e) :
    e.signatures = (d.fieldSignatures, d.querySignatures + 1) := by
  obtain ⟨t, run, rfl⟩ := sign_ok_iff.mp signed
  rw [inQuery, SigningProfile.signEither_true, SigningProfile.presign_of_named
    (Credential.isAnonymous_trimmed_eq_false.mpr plain.named)] at run
  exact Prod.ext (SigningProfile.fieldSignatures_of_presignWith plain.keeps run)
    (SigningProfile.querySignatures_of_presignWith plain.keeps run)

end SigningCall

/-- In the fields there is one signature behind any call that puts one there; in the query there is
one more for every call that puts one there. -/
theorem signatures_of_signAll {calls : List SigningCall} {d e : Draft}
    (plain : ∀ call ∈ calls, call.IsPlain) (signed : signAll calls d = .ok e) :
    e.signatures = (if calls.all (·.inQuery) then d.fieldSignatures else 1,
      d.querySignatures + calls.countP (·.inQuery)) := by
  induction calls generalizing d with
  | nil =>
    cases signed
    rfl
  | cons call rest ih =>
    have later : ∀ call ∈ rest, call.IsPlain := fun call member =>
      plain call (List.mem_cons_of_mem _ member)
    have first := plain call List.mem_cons_self
    rw [signAll, List.foldlM_cons] at signed
    cases once : call.sign d with
    | error fault =>
      rw [once] at signed
      cases signed
    | ok next =>
      rw [once] at signed
      have behind := ih later signed
      cases place : call.inQuery with
      | true =>
        obtain ⟨fields, query⟩ := Prod.mk.inj (SigningCall.signatures_of_query first place once)
        rw [behind, fields, query, List.all_cons, List.countP_cons, place]
        simp only [Bool.true_and, if_true, Nat.add_assoc, Nat.add_comm 1]
      | false =>
        obtain ⟨fields, query⟩ := Prod.mk.inj (SigningCall.signatures_of_fields first place once)
        rw [behind, fields, query, List.all_cons, List.countP_cons, place]
        simp

/-- A request without a signature carries exactly one behind calls that all put theirs into the
fields, and behind a single call.  Behind every other run there are more. -/
theorem carriesOne_iff {calls : List SigningCall} {d e : Draft}
    (plain : ∀ call ∈ calls, call.IsPlain) (some : calls ≠ []) (unsigned : d.signatures = (0, 0))
    (signed : signAll calls d = .ok e) :
    e.signatures = (if calls.all (·.inQuery) then 0 else 1, calls.countP (·.inQuery)) ∧
      (e.CarriesOne ↔ (∀ call ∈ calls, call.inQuery = false) ∨ calls.length = 1) := by
  obtain ⟨fields, query⟩ := Prod.mk.inj unsigned
  have counted := signatures_of_signAll plain signed
  rw [fields, query, Nat.zero_add] at counted
  refine ⟨counted, ?_⟩
  have none : (∀ call ∈ calls, call.inQuery = false) ↔ calls.countP (·.inQuery) = 0 := by
    simp [List.countP_eq_zero]
  have every : calls.all (·.inQuery) = true ↔ calls.countP (·.inQuery) = calls.length := by
    simp [List.countP_eq_length]
  have filled : 0 < calls.length := List.length_pos_iff.mpr some
  have bound : calls.countP (·.inQuery) ≤ calls.length := List.countP_le_length
  rw [Draft.CarriesOne, counted, none]
  by_cases inQuery : calls.all (·.inQuery) = true
  · have all := every.mp inQuery
    rw [if_pos inQuery, Prod.mk.injEq, Prod.mk.injEq]
    omega
  · have rest := mt every.mpr inQuery
    rw [if_neg inQuery, Prod.mk.injEq, Prod.mk.injEq]
    omega

/-- A download that is not signed yet. -/
def download : Draft where
  method := .get
  scheme := .https
  authority := .named "example.net"
  path := "/a"
  query := []
  headers := .empty

namespace SigningCall

open SigningProfile

/-- A call that puts its signature into the fields. -/
def forStore : SigningCall :=
  ⟨storeProfile, false, linkCredential, storeProfile.terms .epoch none, .empty, .new 1⟩

/-- A call that puts its signature into the query. -/
def forLink : SigningCall := ⟨linkProfile, true, linkCredential, linkTerms, .empty, .new 1⟩

theorem forStore_isPlain : forStore.IsPlain where
  named := by decide +kernel
  keeps := keeps_of_isBuiltin (.inl rfl) (.inl rfl) rfl

theorem forLink_isPlain : forLink.IsPlain where
  named := by decide +kernel
  keeps := keeps_of_isBuiltin (.inl rfl) (.inr rfl) rfl

theorem forStore_sign (d : Draft) : ∃ e, forStore.sign d = .ok e := by
  obtain ⟨t, run⟩ : ∃ t, (storeProfile.sign linkCredential
      (storeProfile.terms .epoch none)).perform ⟨d, .empty, .new 1, [], []⟩ = (.ok (), t) :=
    sign_succeeds (.inl rfl) rfl (by decide +kernel) rfl (by decide +kernel) d.isFieldText_hostText
      (isFieldText_compact _) (isFieldText_hex _) (by decide +kernel) (by decide +kernel)
  exact ⟨t.draft, sign_ok_iff.mpr ⟨t, by rwa [forStore, signEither_false], rfl⟩⟩

theorem forLink_sign (d : Draft) : ∃ e, forLink.sign d = .ok e := by
  have valid : linkTerms.validitySeconds = .ok 3600 := rfl
  obtain ⟨t, run⟩ : ∃ t, (linkProfile.presign linkCredential linkTerms).perform
      ⟨d, .empty, .new 1, [], []⟩ = (.ok (), t) :=
    presign_succeeds (.inr rfl) (by decide +kernel) rfl valid d.isFieldText_hostText
  exact ⟨t.draft, sign_ok_iff.mpr ⟨t, by rwa [forLink, signEither_true], rfl⟩⟩

theorem signAll_pair {first second : SigningCall} (once : ∀ d, ∃ e, first.sign d = .ok e)
    (again : ∀ d, ∃ e, second.sign d = .ok e) (d : Draft) :
    ∃ e, signAll [first, second] d = .ok e := by
  obtain ⟨between, signed⟩ := once d
  obtain ⟨e, resigned⟩ := again between
  refine ⟨e, ?_⟩
  rw [signAll, List.foldlM_cons, signed]
  exact (bind_pure _).trans resigned

end SigningCall

open SigningCall

/-- A request that is signed in its fields and made a link of carries two. -/
theorem carriesOne_iff_signedLink :
    ∃ e, (∀ call ∈ [forStore, forLink], call.IsPlain) ∧ [forStore, forLink] ≠ [] ∧
      download.signatures = (0, 0) ∧ signAll [forStore, forLink] download = .ok e ∧
      e.signatures = (1, 1) ∧ ¬e.CarriesOne := by
  have plain : ∀ call ∈ [forStore, forLink], call.IsPlain := by
    simp [forStore_isPlain, forLink_isPlain]
  obtain ⟨e, signed⟩ := signAll_pair forStore_sign forLink_sign download
  obtain ⟨counted, one⟩ := carriesOne_iff plain (by simp) rfl signed
  refine ⟨e, plain, by simp, rfl, signed, counted, fun carries => ?_⟩
  have possible := one.mp carries
  simp [forStore, forLink] at possible

/-- So does one that is made a link twice. -/
theorem not_carriesOne_twice :
    ∃ e, signAll [forLink, forLink] download = .ok e ∧ e.signatures = (0, 2) ∧ ¬e.CarriesOne := by
  have plain : ∀ call ∈ [forLink, forLink], call.IsPlain := by simp [forLink_isPlain]
  obtain ⟨e, signed⟩ := signAll_pair forLink_sign forLink_sign download
  have counted : e.signatures = (0, 2) := signatures_of_signAll plain signed
  refine ⟨e, signed, counted, ?_⟩
  rw [Draft.CarriesOne, counted]
  decide

end RequestSigning
