import RequestSigning.Proofs.Credential
import RequestSigning.Proofs.Signing.Fields
import RequestSigning.Proofs.Signing.Query

/-!
# What a signature reports

`Quiet` says of a step that it knows nothing of the log and the key cache.  All steps before a
signature are quiet, and all steps behind it are silent, so that `log_signEither`: what is reported
follows from the request and from what is prepared with it, and neither the secret key nor the cache
changes more than whether a line says that the cache had no key.
-/

namespace RequestSigning

open Http

/-- The session with the request and the payload of another one. -/
def Session.carry (s t : Session) : Session :=
  { s with draft := t.draft, payload := t.payload }

/-- A session in which nothing has happened. -/
def Session.fresh (d : Draft) (payload : Payload) : Session := ⟨d, payload, .new 0, [], []⟩

namespace Signing

variable {α β : Type}

/-- The step reads and writes nothing but the request and the payload. -/
def Quiet (step : Signing α) : Prop :=
  ∀ s t : Session, step.perform (s.carry t) = ((step.perform t).1, s.carry (step.perform t).2)

theorem Quiet.perform {step : Signing α} (quiet : Quiet step) (s : Session) :
    step.perform s = ((step.perform (.fresh s.draft s.payload)).1,
      s.carry (step.perform (.fresh s.draft s.payload)).2) :=
  quiet s (.fresh s.draft s.payload)

theorem quiet_pure (a : α) : Quiet (pure a) := fun _ _ => rfl

theorem quiet_ofExcept (r : Except Error α) : Quiet (ofExcept r) := by
  intro s t
  rw [perform_ofExcept, perform_ofExcept]

theorem quiet_bind {step : Signing α} {next : α → Signing β} (first : Quiet step)
    (later : ∀ a, Quiet (next a)) : Quiet (step >>= next) := by
  intro s t
  rw [perform_bind, perform_bind, first s t]
  obtain ⟨result, u⟩ := step.perform t
  cases result with
  | error e => rfl
  | ok a => exact later a s u

theorem quiet_get_bind {next : Draft → Signing α} (each : ∀ d, Quiet (next d)) :
    Quiet (get >>= fun s => next s.draft) := fun s t => each t.draft s t

theorem quiet_setHeader (n : HeaderName) (text : String) (sensitive : Bool) :
    Quiet (setHeader n text sensitive) := by
  intro s t
  rw [perform_setHeader, perform_setHeader]
  cases HeaderValue.ofText? text sensitive <;> rfl

theorem quiet_addPairs (pairs : List (String × String)) : Quiet (addPairs pairs) := fun _ _ => rfl

theorem quiet_hashPayload (rule : HashRule) : Quiet (hashPayload rule) := by
  intro s t
  rw [perform_hashPayload, perform_hashPayload]
  rfl

/-- The step reports nothing. -/
def Silent (step : Signing α) : Prop := ∀ s, (step.perform s).2.log = s.log

theorem Quiet.silent {step : Signing α} (quiet : Quiet step) : Silent step := by
  intro s
  rw [quiet.perform]
  rfl

theorem Silent.of_perform {step : Signing α} {s t : Session} {r : Except Error α}
    (silent : Silent step) (run : step.perform s = (r, t)) : t.log = s.log := by
  have same := silent s
  rw [run] at same
  exact same

theorem silent_bind {step : Signing α} {next : α → Signing β} (first : Silent step)
    (later : ∀ a, Silent (next a)) : Silent (step >>= next) := by
  intro s
  cases run : step.perform s with
  | mk result t =>
    have before := first.of_perform run
    rw [perform_bind, run]
    cases result with
    | error e => exact before
    | ok a => exact (later a t).trans before

end Signing

namespace KeyCache

/-- What is reported when a key is asked for. -/
theorem signingKey_log (c : KeyCache) (secret : String) (time : Instant) (region service : String) :
    (c.signingKey secret time region service).2.2 = [] ∨
      (c.signingKey secret time region service).2.2 = [missEntry region service time.days] := by
  unfold signingKey
  dsimp only
  split
  · exact .inl rfl
  · exact .inr rfl

end KeyCache

namespace SigningProfile

open Signing

variable {p : SigningProfile} {cred other : Credential} {terms : SigningTerms}

theorem quiet_setToken (cred : Credential) : Quiet (setToken cred) := by
  unfold setToken
  cases cred.sessionToken with
  | none => exact quiet_pure ()
  | some token => exact quiet_setHeader .securityToken token true

theorem quiet_setHost : Quiet setHost := by
  have each : ∀ d : Draft, Quiet (setHeader .host d.hostText false) := fun d =>
    quiet_setHeader .host d.hostText false
  -- Not in one step: a unification with the goal first would unfold the host's text.
  have quiet := quiet_get_bind each
  exact quiet

theorem quiet_setHash (hash : String) : Quiet (setHash hash) := by
  have each : ∀ d : Draft, Quiet (if d.headerText? .contentHash = some hashRequired then
      setHeader .contentHash hash false else pure ()) := by
    intro d
    split
    · exact quiet_setHeader .contentHash hash false
    · exact quiet_pure ()
  exact quiet_get_bind each

theorem quiet_canonical (hash : String) (terms : SigningTerms) : Quiet (canonical hash terms) :=
  fun _ _ => rfl

theorem quiet_prepareFields (p : SigningProfile) (cred : Credential) (terms : SigningTerms) :
    Quiet (p.prepareFields cred terms) := by
  refine quiet_bind (quiet_setToken cred) fun _ => ?_
  refine quiet_bind quiet_setHost fun _ => ?_
  refine quiet_bind (quiet_setHeader _ _ _) fun _ => ?_
  refine quiet_bind (quiet_hashPayload p.rule) fun hash => ?_
  exact quiet_bind (quiet_setHash hash) fun _ => quiet_canonical hash terms

theorem quiet_prepareQuery (p : SigningProfile) (cred : Credential) (terms : SigningTerms) :
    Quiet (p.prepareQuery cred terms) := by
  refine quiet_bind (quiet_ofExcept _) fun seconds => ?_
  refine quiet_bind quiet_setHost fun _ => ?_
  refine quiet_bind (fun _ _ => rfl) fun _ => ?_
  exact quiet_bind (quiet_hashPayload p.queryRule) fun hash => quiet_canonical hash terms

theorem silent_runHook (p : SigningProfile) (signature : Signature) (terms : SigningTerms) :
    Silent (p.runHook signature terms) := by
  intro s
  simp only [runHook, perform_bind, perform_get, perform_set, perform_ofExcept]

/-! ### Both kinds of signature -/

def prepare (p : SigningProfile) (inQuery : Bool) (cred : Credential) (terms : SigningTerms) :
    Signing CanonicalRequest :=
  if inQuery then p.prepareQuery cred terms else p.prepareFields cred terms

/-- What is done with a signature. -/
def finish (p : SigningProfile) (inQuery : Bool) (cred : Credential) (terms : SigningTerms)
    (c : CanonicalRequest) (signature : Signature) : Signing Unit :=
  if inQuery then addPairs [("X-Amz-Signature", signature.text)]
  else do
    setHeader .authorization (authorization cred terms c signature.text) true
    p.runHook signature terms

theorem signEither_of_named (named : cred.trimmed.isAnonymous = false) (inQuery : Bool) :
    p.signEither inQuery cred terms = (do
      let c ← p.prepare inQuery cred.trimmed terms
      let signature ← Signing.signature c cred.trimmed terms
      p.finish inQuery cred.trimmed terms c signature) := by
  cases inQuery with
  | true =>
    rw [signEither_true, presign_of_named named, presignWith_eq_prepareQuery]
    rfl
  | false =>
    rw [signEither_false, sign_of_named named, signWith_eq_prepareFields]
    rfl

theorem quiet_prepare (p : SigningProfile) (inQuery : Bool) (cred : Credential)
    (terms : SigningTerms) : Quiet (p.prepare inQuery cred terms) := by
  cases inQuery with
  | true => exact quiet_prepareQuery p cred terms
  | false => exact quiet_prepareFields p cred terms

theorem silent_finish (p : SigningProfile) (inQuery : Bool) (cred : Credential)
    (terms : SigningTerms) (c : CanonicalRequest) (signature : Signature) :
    Silent (p.finish inQuery cred terms c signature) := by
  cases inQuery with
  | true => exact (quiet_addPairs _).silent
  | false =>
    exact silent_bind (quiet_setHeader _ _ _).silent fun _ => silent_runHook p signature terms

/-- The secret key and the end of validity are not looked at. -/
theorem prepare_congr (access : cred.accessKey = other.accessKey)
    (token : cred.sessionToken = other.sessionToken) (inQuery : Bool) :
    p.prepare inQuery cred terms = p.prepare inQuery other terms := by
  cases inQuery with
  | true =>
    have pairs : addPresignPairs cred terms = addPresignPairs other terms := by
      unfold addPresignPairs presignPairs
      rw [access, token]
    change p.prepareQuery cred terms = p.prepareQuery other terms
    rw [prepareQuery, prepareQuery, pairs]
  | false =>
    have set : setToken cred = setToken other := by
      unfold setToken
      rw [token]
    change p.prepareFields cred terms = p.prepareFields other terms
    rw [prepareFields, prepareFields, set]

/-- The canonical request that a request is prepared to, if it can be. -/
def prepared (p : SigningProfile) (inQuery : Bool) (cred : Credential) (terms : SigningTerms)
    (d : Draft) (payload : Payload) : Except Error CanonicalRequest :=
  ((p.prepare inQuery cred terms).perform (.fresh d payload)).1

/-- What is reported of a prepared request. -/
def reports (terms : SigningTerms) : Except Error CanonicalRequest → List Log.Entry
  | .ok c => [.debug ("calculated canonical request: " ++ c.text),
      .debug ("calculated string to sign: " ++ stringToSign c terms)]
  | .error _ => []

theorem log_signEither (p : SigningProfile) (named : cred.trimmed.isAnonymous = false)
    (inQuery : Bool) (terms : SigningTerms) (s : Session) :
    ∃ missed, (missed = [] ∨
        missed = [KeyCache.missEntry terms.region terms.service terms.time.days]) ∧
      ((p.signEither inQuery cred terms).perform s).2.log =
        s.log ++ reports terms (p.prepared inQuery cred.trimmed terms s.draft s.payload) ++
          missed := by
  rw [signEither_of_named named, perform_bind, (quiet_prepare p inQuery cred.trimmed terms).perform,
    prepared]
  -- Where nothing can be prepared the call ends before the cache is asked.
  obtain ⟨result, t⟩ := (p.prepare inQuery cred.trimmed terms).perform (.fresh s.draft s.payload)
  cases result with
  | error e => exact ⟨[], .inl rfl, by simp [reports, Session.carry]⟩
  | ok c =>
    refine ⟨_, KeyCache.signingKey_log s.cache cred.trimmed.secretKey _ _ _, ?_⟩
    dsimp only
    rw [perform_bind_of_ok (perform_signature _ _ _ _), silent_finish, Session.afterSignature,
      List.append_assoc (s.carry t).log]
    rfl

/-- A signature that was made was made from a prepared request. -/
theorem prepared_of_signEither {s t : Session} (named : cred.trimmed.isAnonymous = false)
    {inQuery : Bool} (run : (p.signEither inQuery cred terms).perform s = (.ok (), t)) :
    ∃ c, p.prepared inQuery cred.trimmed terms s.draft s.payload = .ok c := by
  rw [signEither_of_named named] at run
  obtain ⟨c, u, first, _⟩ := bind_ok_iff.mp run
  rw [(quiet_prepare p inQuery cred.trimmed terms).perform] at first
  exact ⟨c, congrArg Prod.fst first⟩

end SigningProfile

end RequestSigning
