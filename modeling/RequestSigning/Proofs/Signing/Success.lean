import RequestSigning.Proofs.Draft.Room
import RequestSigning.Proofs.Signing.Failure

/-!
# Signatures that succeed

`signHead_ok`: a signature of a head succeeds when the one of its draft does and the draft is
restored.  So it does where fields can hold the texts and the uri has room: `signHead_succeeds` and
`presignHead_succeeds`.
-/

namespace RequestSigning

open Http

namespace SigningProfile

variable {p : SigningProfile} {cred : Credential} {terms : SigningTerms} {s t : Session}
  {head left sent : Head} {authority : Authority} {payload : Payload} {cache : KeyCache}
  {hash : String}

theorem giveBack_ok_iff {r : Except Error Unit} :
    (giveBack r s left).result = .ok () ↔
      r = .ok () ∧ s.draft.restore left = (.ok (), (giveBack r s left).head) := by
  unfold giveBack
  obtain ⟨result, head⟩ := s.draft.restore left
  cases result with
  | error e => simp
  | ok _ => simp

/-- A signed head is restored from the draft that was signed. -/
theorem signHead_ok {inQuery : Bool}
    (done : (p.signHead inQuery head payload (some cred) terms cache).result = .ok ()) :
    ∃ authority t,
      (p.signEither inQuery cred terms).perform (startOf head authority payload cache) =
        (.ok (), t) ∧
      t.draft.restore { head with uri := .root, headers := .empty } =
        (.ok (), (p.signHead inQuery head payload (some cred) terms cache).head) ∧
      (p.signHead inQuery head payload (some cred) terms cache).log = t.log := by
  cases server : head.uri.authority? with
  | none =>
    rw [signHead, Draft.take, server] at done
    cases done
  | some authority =>
    rw [signHead_some server] at done ⊢
    obtain ⟨signed, restored⟩ := giveBack_ok_iff.mp done
    exact ⟨authority, _, Prod.ext signed rfl, restored, rfl⟩

theorem signHead_of_run {inQuery : Bool} (server : head.uri.authority? = some authority)
    (run : (p.signEither inQuery cred terms).perform (startOf head authority payload cache) =
      (.ok (), t))
    (restored : t.draft.restore { head with uri := .root, headers := .empty } = (.ok (), sent)) :
    (p.signHead inQuery head payload (some cred) terms cache).result = .ok () := by
  rw [signHead_some server, run]
  exact giveBack_ok_iff.mpr ⟨rfl, by rw [restored, giveBack, restored]⟩

/-- A signature in the fields succeeds where they can hold its texts and the uri has room. -/
theorem signHead_succeeds (builtin : p.rule.IsBuiltin) (hook : p.hook = .nothing)
    (server : head.uri.authority? = some authority)
    (path : (Draft.ofUri head authority).path ≠ "*")
    (room : (Utf8.encode (Draft.ofUri head authority).path).length +
      Draft.queryRoom (Draft.ofUri head authority).query < maxUriLength)
    (hashed : (p.rule.hash (Draft.ofUri head authority) payload).1 = .ok hash)
    (hashText : IsFieldText hash) (named : Text.trim cred.accessKey ≠ "")
    (token : ∀ token ∈ cred.trimmed.sessionToken, IsFieldText token)
    (access : IsFieldText cred.trimmed.accessKey) (scope : IsFieldText terms.scope) :
    (p.signHead false head payload (some cred) terms cache).result = .ok () := by
  have known := Credential.isAnonymous_trimmed_eq_false.mpr named
  obtain ⟨t, run⟩ := sign_succeeds (s := startOf head authority payload cache) builtin hook known
    hashed token (Draft.isFieldText_hostText _) (isFieldText_compact _) hashText access scope
  have signed := run
  rw [sign_of_named known] at signed
  obtain ⟨_, covered, fields, _, _, _, rfl⟩ := (signWith_ok_iff builtin hook).mp signed
  have rooted : ({ Draft.ofUri head authority with headers := fields } : Draft).HasTargetPath :=
    Draft.hasTargetPath_ofUri head authority
  obtain ⟨sent, restored⟩ := Draft.exists_restore rooted path room
    { head with uri := .root, headers := .empty }
  rw [← signEither_false] at run
  exact signHead_of_run server run restored

theorem length_signature (key : Bytes) (c : CanonicalRequest) (terms : SigningTerms) :
    (Utf8.encode (Signature.of key c terms).text).length = 64 := by
  have digest : ∀ key message : Bytes, (Hmac.digest key message).length = 32 := fun _ _ => rfl
  rw [Signature.of, Hmac.hex, Hex.length_encode, digest]

/-- What the pair of a signature takes of a uri. -/
theorem pairRoom_signature (key : Bytes) (c : CanonicalRequest) (terms : SigningTerms) :
    Draft.pairRoom ("X-Amz-Signature", (Signature.of key c terms).text) = 239 := by
  have name : (Utf8.encode "X-Amz-Signature").length = 15 := by decide
  rw [Draft.pairRoom, length_signature, name]

/-- A signature in the query succeeds where the request ends in time and the uri has room for its
pairs. -/
theorem presignHead_succeeds {seconds : Int} (builtin : p.queryRule.IsBuiltin)
    (server : head.uri.authority? = some authority)
    (path : (Draft.ofUri head authority).path ≠ "*")
    (room : ∀ v, (Utf8.encode (Draft.ofUri head authority).path).length +
      Draft.queryRoom ((Draft.ofUri head authority).query ++ presignPairs cred.trimmed terms
        (head.headers.insert .host v) seconds) + 239 < maxUriLength)
    (hashed : (p.queryRule.hash (Draft.ofUri head authority) payload).1 = .ok hash)
    (valid : terms.validitySeconds = .ok seconds) (named : Text.trim cred.accessKey ≠ "") :
    (p.signHead true head payload (some cred) terms cache).result = .ok () := by
  have known := Credential.isAnonymous_trimmed_eq_false.mpr named
  obtain ⟨t, run⟩ := presign_succeeds (s := startOf head authority payload cache) builtin known
    hashed valid (Draft.isFieldText_hostText _)
  have signed := run
  rw [presign_of_named known] at signed
  obtain ⟨_, _, hosted, _, sameValid, hostSet, rfl⟩ := (presignWith_ok_iff builtin).mp signed
  obtain rfl := Except.ok.inj (valid.symm.trans sameValid)
  cases hostSet with
  | @written _ _ v value =>
    have rooted : (beforeSignature (Draft.ofUri head authority) cred.trimmed terms seconds
        (head.headers.insert .host v)).HasTargetPath := Draft.hasTargetPath_ofUri head authority
    have restored : ∀ key c, ∃ sent, ((beforeSignature (Draft.ofUri head authority) cred.trimmed
        terms seconds (head.headers.insert .host v)).addPairs
          [("X-Amz-Signature", (Signature.of key c terms).text)]).restore
            { head with uri := .root, headers := .empty } = (.ok (), sent) := by
      intro key c
      refine Draft.exists_restore_addPairs rooted path ?_ _
      rw [pairRoom_signature]
      exact room v
    rw [← signEither_true] at run
    exact signHead_of_run server run (restored _ _).choose_spec

end SigningProfile

end RequestSigning
