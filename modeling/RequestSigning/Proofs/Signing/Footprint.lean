import RequestSigning.Proofs.Credential
import RequestSigning.Proofs.Signing.Fields
import RequestSigning.Proofs.Signing.Frame

/-!
# The footprint of a signature

`sign_footprint`: whether it succeeds or fails, a signature in the fields sets none but token, host,
date, a content hash that is asked for, and the signature itself; one in the query sets the host and
adds pairs behind those of the request.
-/

namespace RequestSigning

open Http

namespace Draft

variable {c d e : Draft} {cred : Credential} {n : HeaderName}

/-- The first value of the content hash field asks for the hash in its place. -/
def AsksHash (d : Draft) : Prop :=
  (d.headers.octets .contentHash).head? = some (Utf8.encode "required")

/-- The fields that a signature in the fields of a draft may set. -/
def MaySet (cred : Credential) (d : Draft) (n : HeaderName) : Prop :=
  n = .securityToken ∧ cred.sessionToken.isSome = true ∨ n = .host ∨ n = .date ∨
    n = .contentHash ∧ d.AsksHash ∨ n = .authorization

/-- Nothing of the second draft is other than in the first but the fields that may be set. -/
structure SetsFields (cred : Credential) (d e : Draft) : Prop where
  rest : e = { d with headers := e.headers }
  fields : ∀ n, ¬MaySet cred d n → e.headers.values n = d.headers.values n

/-- Nothing of the second draft is other than in the first but the host and the query, which begins
with the pairs of the first. -/
structure SetsHost (d e : Draft) : Prop where
  rest : e = { d with query := e.query, headers := e.headers }
  fields : ∀ n, n ≠ .host → e.headers.values n = d.headers.values n
  query : d.query <+: e.query

theorem asksHash_of_text (asked : d.headerText? .contentHash = some "required") : d.AsksHash := by
  obtain ⟨v, first, read⟩ := Option.bind_eq_some_iff.mp asked
  cases visible : v.text? with
  | error fault =>
    rw [visible] at read
    cases read
  | ok text =>
    rw [visible] at read
    obtain rfl := Option.some.inj read
    rw [AsksHash, Headers.octets, List.head?_map, show (d.headers.values .contentHash).head? = some v
      from first, Option.map_some, HeaderValue.octets_of_text? visible]

theorem asksHash_congr (same : d.headers.values .contentHash = c.headers.values .contentHash)
    (asks : d.AsksHash) : c.AsksHash := by
  rw [AsksHash, ← Headers.octets_congr same]
  exact asks

theorem MaySet.before (kept : ∀ n, ¬MaySet cred c n → d.headers.values n = c.headers.values n)
    (may : MaySet cred d n) : MaySet cred c n := by
  rcases may with token | host | date | ⟨rfl, asks⟩ | authorization
  · exact .inl token
  · exact .inr (.inl host)
  · exact .inr (.inr (.inl date))
  · -- A hash that may not be set is the same, and asks for itself no more than before.
    refine Classical.byContradiction fun unset => unset ?_
    exact .inr (.inr (.inr (.inl ⟨rfl, asksHash_congr (kept _ unset) asks⟩)))
  · exact .inr (.inr (.inr (.inr authorization)))

theorem isFrame_setsFields (cred : Credential) : IsFrame (SetsFields cred) where
  refl _ := ⟨rfl, fun _ _ => rfl⟩
  trans {c d e} first second := by
    refine ⟨?_, fun n unset => ?_⟩
    · rw [second.rest, first.rest]
    · rw [second.fields n (mt (MaySet.before first.fields) unset), first.fields n unset]

theorem isFrame_setsHost : IsFrame SetsHost where
  refl _ := ⟨rfl, fun _ _ => rfl, List.prefix_refl _⟩
  trans {c d e} first second := by
    refine ⟨?_, fun n other => ?_, first.query.trans second.query⟩
    · rw [second.rest, first.rest]
    · rw [second.fields n other, first.fields n other]

theorem setsFields_insert (may : MaySet cred d n) (v : HeaderValue) :
    SetsFields cred d { d with headers := d.headers.insert n v } := by
  refine ⟨rfl, fun m unset => ?_⟩
  have different : n ≠ m := by
    rintro rfl
    exact unset may
  rw [Headers.values_insert, if_neg different]

theorem setsHost_insert (d : Draft) (v : HeaderValue) :
    SetsHost d { d with headers := d.headers.insert .host v } := by
  refine ⟨rfl, fun m other => ?_, List.prefix_refl _⟩
  rw [Headers.values_insert, if_neg (Ne.symm other)]

theorem setsHost_addPairs (d : Draft) (pairs : List (String × String)) :
    SetsHost d (d.addPairs pairs) :=
  ⟨rfl, fun _ _ => rfl, List.prefix_append _ _⟩

end Draft

namespace SigningProfile

variable {p : SigningProfile}

theorem within_sign (within : ∀ cred, p.Within (Draft.SetsFields cred)) (cred : Credential)
    (terms : SigningTerms) : Signing.Within (Draft.SetsFields cred.trimmed) (p.sign cred terms) := by
  have frame := Draft.isFrame_setsFields cred.trimmed
  unfold sign
  split
  · exact Signing.within_of_untouched frame fun _ => rfl
  refine within_signWith frame ?token ?host ?date ?hash ?authorization (within _) terms
  case token => exact fun present d => Draft.setsFields_insert (.inl ⟨rfl, present⟩)
  case host => exact fun d => Draft.setsFields_insert (.inr (.inl rfl))
  case date => exact fun d => Draft.setsFields_insert (.inr (.inr (.inl rfl)))
  case hash =>
    intro d v asked
    have asks := Draft.asksHash_of_text asked
    exact Draft.setsFields_insert (.inr (.inr (.inr (.inl ⟨rfl, asks⟩)))) v
  case authorization => exact fun d => Draft.setsFields_insert (.inr (.inr (.inr (.inr rfl))))

theorem within_presign (within : p.Within Draft.SetsHost) (cred : Credential)
    (terms : SigningTerms) : Signing.Within Draft.SetsHost (p.presign cred terms) := by
  have frame := Draft.isFrame_setsHost
  unfold presign
  split
  · exact Signing.within_of_untouched frame fun _ => rfl
  · exact within_presignWith frame Draft.setsHost_insert Draft.setsHost_addPairs within _ terms

/-- Whatever the result, nothing else of a request is touched. -/
theorem sign_footprint (rule : p.rule.IsBuiltin) (queryRule : p.queryRule.IsBuiltin)
    (hook : p.hook = .nothing) (cred : Credential) (terms : SigningTerms) (s : Session) :
    Draft.SetsFields cred.trimmed s.draft ((p.sign cred terms).perform s).2.draft ∧
      Draft.SetsHost s.draft ((p.presign cred terms).perform s).2.draft := by
  refine ⟨within_sign (fun cred => ?_) cred terms s, within_presign ?_ cred terms s⟩
  · exact within_of_isBuiltin (Draft.isFrame_setsFields cred) rule queryRule hook
  · exact within_of_isBuiltin Draft.isFrame_setsHost rule queryRule hook

/-- An upload whose payload cannot be read. -/
def brokenUpload : Session := { upload with payload := .stream ⟨#[], 0, none, 0, some 0, true, true⟩ }

/-- The signature fails behind fields that were set before the payload was read. -/
theorem sign_footprint_brokenUpload :
    storeProfile.rule.IsBuiltin ∧ storeProfile.queryRule.IsBuiltin ∧ storeProfile.hook = .nothing ∧
      ((storeProfile.sign paddedCredential (storeProfile.terms .epoch none)).perform
        brokenUpload).1 = .error (Payload.streamError "unable to read payload stream" .read) ∧
      ((storeProfile.sign paddedCredential (storeProfile.terms .epoch none)).perform
        brokenUpload).2.draft.headers.contains .date = true ∧
      Draft.SetsFields paddedCredential.trimmed brokenUpload.draft
        ((storeProfile.sign paddedCredential (storeProfile.terms .epoch none)).perform
          brokenUpload).2.draft ∧
      Draft.SetsHost brokenUpload.draft
        ((storeProfile.presign paddedCredential (storeProfile.terms .epoch none)).perform
          brokenUpload).2.draft :=
  ⟨.inl rfl, .inl rfl, rfl, rfl, rfl, sign_footprint (.inl rfl) (.inl rfl) rfl _ _ _⟩

end SigningProfile

end RequestSigning
