import RequestSigning.Proofs.Decimal.Digits
import RequestSigning.Proofs.Signing.Frame
import RequestSigning.Proofs.Time.Instant

/-!
# How long a signature in the query is good for

A signature that is asked to be good for some span ends with the calendar at the latest, and so it
is good for the span or for what is left of the calendar, whichever is less.
`presign_goodFor_iff`: it is refused where that is no second or more than a week, and says when that
is the answer to the span that was asked for.
-/

namespace RequestSigning

open Http

namespace SigningTerms

variable {t : SigningTerms} {d : Duration}

/-- The whole seconds from the time of the signature to the last instant. -/
def secondsLeft (t : SigningTerms) : Int := Instant.maxSeconds - t.time.seconds

/-- At least a second and at most a week. -/
def IsValidity (seconds : Int) : Prop := 1 ≤ seconds ∧ seconds ≤ 604800

instance (seconds : Int) : Decidable (IsValidity seconds) := inferInstanceAs (Decidable (_ ∧ _))

theorem secondsSince_expiration (plain : t.time.isLeap = false) (d : Duration) :
    ((t.time.addSigned? d).getD .last).secondsSince t.time = min (d.seconds : Int) t.secondsLeft := by
  obtain ⟨whole, part⟩ := d.nanos_eq
  have start := Instant.isLeap_eq_false_iff.mp plain
  have latest := t.time.inRange.2.1
  have count := Instant.elapsed_of_plain plain
  rw [Instant.addSigned?_eq]
  cases sum : t.time.add? d with
  | some u =>
    have later := Instant.elapsed_of_add? sum
    have within : ¬Instant.last.elapsed < t.time.elapsed + d.nanos := by
      rw [← Instant.add?_eq_none_iff, sum]
      exact nofun
    rw [Option.getD_some, Instant.secondsSince_of_plain (Instant.plain_of_add? plain sum) plain
      (by omega), later]
    rw [Instant.elapsed_last] at within
    unfold secondsLeft nanosPerSecond Instant.maxSeconds at *
    omega
  | none =>
    have beyond := Instant.add?_eq_none_iff.mp sum
    rw [Instant.elapsed_last] at beyond
    have order : t.time.elapsed ≤ Instant.last.elapsed := by
      rw [Instant.elapsed_last]
      unfold nanosPerSecond Instant.maxSeconds at *
      omega
    rw [Option.getD_none, Instant.secondsSince_of_plain rfl plain order, Instant.elapsed_last]
    unfold secondsLeft nanosPerSecond Instant.maxSeconds at *
    omega

theorem validitySeconds_ok (plain : t.time.isLeap = false)
    (valid : IsValidity (min (d.seconds : Int) t.secondsLeft)) :
    (t.expiringAfter d).validitySeconds = .ok (min (d.seconds : Int) t.secondsLeft) := by
  obtain ⟨least, most⟩ := valid
  rw [← secondsSince_expiration plain] at least most ⊢
  unfold validitySeconds expiringAfter maxValidity
  dsimp only
  rw [if_neg (by omega), if_neg (by omega)]

theorem validitySeconds_error (plain : t.time.isLeap = false)
    (invalid : ¬IsValidity (min (d.seconds : Int) t.secondsLeft)) :
    ∃ e, (t.expiringAfter d).validitySeconds = .error e ∧ e.kind = .configInvalid := by
  rw [← secondsSince_expiration plain, IsValidity] at invalid
  unfold validitySeconds expiringAfter maxValidity
  dsimp only
  split
  · exact ⟨_, rfl, rfl⟩
  · rw [if_pos (by omega)]
    exact ⟨_, rfl, rfl⟩

end SigningTerms

/-- The values of the pairs of this name that the second draft has behind those of the first. -/
def Draft.added (name : String) (d e : Draft) : List String :=
  ((e.query.drop d.query.length).filter (·.1 = name)).map (·.2)

namespace SigningProfile

variable {p : SigningProfile} {cred : Credential} {terms : SigningTerms} {s t : Session}
  {seconds : Int} {done : Except Error Unit × Session}

/-- A signature in the query that is good for so many seconds. -/
def presignFor (p : SigningProfile) (cred : Credential) (terms : SigningTerms) (seconds : Int) :
    Signing Unit := do
  setHost
  addPresignPairs cred terms seconds
  let hash ← Signing.hashPayload p.queryRule
  let c ← canonical hash terms
  let signature ← Signing.signature c cred terms
  Signing.addPairs [("X-Amz-Signature", signature.text)]

theorem presignWith_eq_presignFor (p : SigningProfile) (cred : Credential) (terms : SigningTerms) :
    p.presignWith cred terms = (do
      let seconds ← Signing.ofExcept terms.validitySeconds
      p.presignFor cred terms seconds) := rfl

/-- The terms say how long a signature is good for only with their expiration. -/
theorem presignFor_expiringAfter (p : SigningProfile) (cred : Credential) (terms : SigningTerms)
    (d : Duration) (seconds : Int) :
    p.presignFor cred (terms.expiringAfter d) seconds = p.presignFor cred terms seconds := rfl

theorem query_of_presignFor (keeps : p.queryRule.Keeps Draft.query)
    (run : (p.presignFor cred terms seconds).perform s = (.ok (), t)) :
    ∃ hosted signature, t.draft.query = s.draft.query ++
      (presignPairs cred terms hosted seconds ++ [("X-Amz-Signature", signature)]) := by
  obtain ⟨_, _, host, run⟩ := Signing.bind_ok_iff.mp run
  obtain ⟨hosted, _, rfl⟩ := setHost_ok_iff.mp host
  rw [Signing.perform_bind_of_ok (perform_addPresignPairs _ _ _ _)] at run
  obtain ⟨hash, u, hashed, run⟩ := Signing.bind_ok_iff.mp run
  have kept := (Signing.keeps_hashPayload keeps).of_perform hashed
  rw [Signing.perform_bind_of_ok (perform_canonical _ _ _),
    Signing.perform_bind_of_ok (Signing.perform_signature _ _ _ _), Signing.perform_addPairs] at run
  cases run
  refine ⟨hosted, (Signature.of (u.key cred terms) (.ofDraft u.draft hash terms.double) terms).text,
    ?_⟩
  rw [← List.append_assoc]
  exact congrArg (· ++ _) kept

theorem added_of_presignFor (keeps : p.queryRule.Keeps Draft.query)
    (run : (p.presignFor cred terms seconds).perform s = (.ok (), t)) :
    Draft.added "X-Amz-Expires" s.draft t.draft = [toString seconds] := by
  obtain ⟨hosted, signature, query⟩ := query_of_presignFor keeps run
  rw [Draft.added, query, List.drop_left]
  cases token : cred.sessionToken <;> simp [presignPairs, token]

/-- The answer to a call that asks for so many seconds: a signature that names them, or a refusal
that changes nothing. -/
def GoodFor (s : Session) (done : Except Error Unit × Session) (seconds : Int) : Prop :=
  if SigningTerms.IsValidity seconds then
    done.1 = .ok () ∧ Draft.added "X-Amz-Expires" s.draft done.2.draft = [toString seconds]
  else done.2 = s ∧ ∃ e, done.1 = .error e ∧ e.kind = .configInvalid

/-- An answer tells the seconds, or that they are not valid. -/
theorem goodFor_iff {m n : Int} (good : GoodFor s done m) :
    GoodFor s done n ↔
      m = n ∨ ¬SigningTerms.IsValidity m ∧ ¬SigningTerms.IsValidity n := by
  by_cases same : m = n
  · exact iff_of_true (same ▸ good) (.inl same)
  rw [or_iff_right same]
  unfold GoodFor at good ⊢
  by_cases valid : SigningTerms.IsValidity m
  · rw [if_pos valid] at good
    obtain ⟨signed, named⟩ := good
    refine iff_of_false (fun other => ?_) (fun both => both.1 valid)
    split at other
    · -- Both numbers are read off one pair, and neither has a sign.
      rename_i valid'
      obtain ⟨k, rfl⟩ := Int.eq_ofNat_of_zero_le (Int.le_of_lt valid.1)
      obtain ⟨l, rfl⟩ := Int.eq_ofNat_of_zero_le (Int.le_of_lt valid'.1)
      have texts : [toString k] = [toString l] := named.symm.trans other.2
      exact same (congrArg Int.ofNat (Decimal.toString_injective (List.cons.inj texts).1))
    · obtain ⟨_, e, failed, _⟩ := other
      cases signed.symm.trans failed
  · rw [if_neg valid] at good
    obtain ⟨kept, e, failed, kind⟩ := good
    rw [and_iff_right valid]
    split
    · rename_i other
      refine iff_of_false (fun signed => ?_) (not_not_intro other)
      cases failed.symm.trans signed.1
    · rename_i other
      exact iff_of_true ⟨kept, e, failed, kind⟩ other

/-- The answer to a span of time is the one to what is left of it before the calendar ends. -/
theorem presign_goodFor_min (keeps : p.queryRule.Keeps Draft.query)
    (named : cred.trimmed.isAnonymous = false) (plain : terms.time.isLeap = false)
    (otherwise : ∀ seconds, SigningTerms.IsValidity seconds →
      ∃ t, (p.presignFor cred.trimmed terms seconds).perform s = (.ok (), t)) (d : Duration) :
    GoodFor s ((p.presign cred (terms.expiringAfter d)).perform s)
      (min d.seconds terms.secondsLeft) := by
  rw [presign_of_named named, presignWith_eq_presignFor]
  unfold GoodFor
  split
  · rename_i valid
    obtain ⟨t, signed⟩ := otherwise _ valid
    rw [SigningTerms.validitySeconds_ok plain valid,
      Signing.perform_bind_of_ok (Signing.perform_ofExcept _ _), presignFor_expiringAfter, signed]
    exact ⟨rfl, added_of_presignFor keeps signed⟩
  · rename_i invalid
    obtain ⟨e, refused, kind⟩ := SigningTerms.validitySeconds_error plain invalid
    rw [refused, Signing.perform_bind, Signing.perform_ofExcept]
    exact ⟨rfl, e, rfl, kind⟩

/-- A signature is good for the span that was asked for, or for what is left of the calendar if that
is less.  So it is refused where that is no second or more than a week, and its answer is the one to
the span alone unless the calendar ends within a week, sooner than the span. -/
theorem presign_goodFor_iff (keeps : p.queryRule.Keeps Draft.query)
    (named : cred.trimmed.isAnonymous = false) (plain : terms.time.isLeap = false)
    (otherwise : ∀ seconds, SigningTerms.IsValidity seconds →
      ∃ t, (p.presignFor cred.trimmed terms seconds).perform s = (.ok (), t)) (d : Duration) :
    GoodFor s ((p.presign cred (terms.expiringAfter d)).perform s)
        (min d.seconds terms.secondsLeft) ∧
      (GoodFor s ((p.presign cred (terms.expiringAfter d)).perform s) d.seconds ↔
        d.seconds ≤ terms.secondsLeft ∨ 604800 < terms.secondsLeft ∨
          terms.secondsLeft = 0 ∧ 604800 < d.seconds) := by
  have good := presign_goodFor_min keeps named plain otherwise d
  have left : 0 ≤ terms.secondsLeft := Int.sub_nonneg_of_le terms.time.inRange.2.1
  refine ⟨good, (goodFor_iff good).trans ?_⟩
  unfold SigningTerms.IsValidity
  omega

/-- With a rule of this library a signature in the query fails only where it is refused. -/
theorem presignFor_succeeds {hash : String} (builtin : p.queryRule.IsBuiltin)
    (hashed : (p.queryRule.hash s.draft s.payload).1 = .ok hash)
    (host : IsFieldText s.draft.hostText) (cred : Credential) (terms : SigningTerms)
    (seconds : Int) : ∃ t, (p.presignFor cred terms seconds).perform s = (.ok (), t) := by
  obtain ⟨hosted, hostSet⟩ := Headers.SetTo.exists_some s.draft.headers .host false host
  rw [presignFor, Signing.perform_bind_of_ok (setHost_ok_iff.mpr ⟨hosted, hostSet, rfl⟩),
    Signing.perform_bind_of_ok (perform_addPresignPairs _ _ _ _)]
  exact ⟨_, Signing.bind_ok_iff.mpr
    ⟨hash, _, (Signing.hashPayload_ok_iff builtin s.draft).mpr ⟨hashed, rfl⟩, rfl⟩⟩

/-- A hundred seconds before the calendar ends. -/
def closingTerms : SigningTerms :=
  linkProfile.terms ⟨Instant.maxSeconds - 100, 0, by decide⟩ none

theorem oldLink_presignFor (terms : SigningTerms) (seconds : Int) :
    ∃ t, (linkProfile.presignFor linkCredential.trimmed terms seconds).perform oldLink =
      (.ok (), t) := by
  have hashed : (linkProfile.queryRule.hash oldLink.draft oldLink.payload).1 =
      .ok Payload.unsignedMarker := rfl
  exact presignFor_succeeds (.inr rfl) hashed (by decide +kernel) _ terms seconds

/-- Whoever asks for all time gets a hundred seconds. -/
theorem presign_goodFor_closing :
    let done := (linkProfile.presign linkCredential (closingTerms.expiringAfter .max)).perform oldLink
    linkProfile.queryRule.Keeps Draft.query ∧ linkCredential.trimmed.isAnonymous = false ∧
      closingTerms.time.isLeap = false ∧
      (∀ seconds, SigningTerms.IsValidity seconds → ∃ t, (linkProfile.presignFor
        linkCredential.trimmed closingTerms seconds).perform oldLink = (.ok (), t)) ∧
      GoodFor oldLink done 100 ∧ ¬GoodFor oldLink done Duration.max.seconds := by
  have keeps : linkProfile.queryRule.Keeps Draft.query := fun _ _ => rfl
  have named : linkCredential.trimmed.isAnonymous = false := by decide +kernel
  have otherwise : ∀ seconds, SigningTerms.IsValidity seconds → ∃ t, (linkProfile.presignFor
      linkCredential.trimmed closingTerms seconds).perform oldLink = (.ok (), t) :=
    fun seconds _ => oldLink_presignFor closingTerms seconds
  obtain ⟨good, answers⟩ := presign_goodFor_iff keeps named rfl otherwise .max
  exact ⟨keeps, named, rfl, otherwise, good, answers.not.mpr (by decide)⟩

/-- A span that is longer than a week is not refused there. -/
theorem presign_endless_closing :
    604800 < Duration.max.seconds ∧
      ((linkProfile.presign linkCredential (closingTerms.expiringAfter .max)).perform oldLink).1 =
        .ok () := by
  have named : linkCredential.trimmed.isAnonymous = false := by decide +kernel
  have good := presign_goodFor_min (p := linkProfile) (fun _ _ => rfl) named rfl
    (fun seconds _ => oldLink_presignFor closingTerms seconds) .max
  exact ⟨by decide, good.1⟩

end SigningProfile

end RequestSigning
