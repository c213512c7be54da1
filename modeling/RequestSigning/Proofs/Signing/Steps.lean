import RequestSigning.Proofs.Http.Header
import RequestSigning.Signing.Profile

/-!
# What each step of a signature does

For every step of a session one lemma: its result, and the session that it leaves.  `bind_ok_iff`
takes a sequence of steps apart.
-/

namespace RequestSigning

open Http

namespace Session

/-- The session with other header fields. -/
def withHeaders (s : Session) (h : Headers) : Session :=
  { s with draft := { s.draft with headers := h } }

/-- The key that the cache of the session answers with. -/
def key (s : Session) (cred : Credential) (terms : SigningTerms) : Bytes :=
  (s.cache.signingKey cred.secretKey terms.time terms.region terms.service).1

/-- The session behind a signature: the cache has been asked and the log is longer. -/
def afterSignature (s : Session) (c : CanonicalRequest) (cred : Credential)
    (terms : SigningTerms) : Session :=
  let found := s.cache.signingKey cred.secretKey terms.time terms.region terms.service
  { s with
    cache := found.2.1
    log := s.log ++ [.debug ("calculated canonical request: " ++ c.text)] ++
      [.debug ("calculated string to sign: " ++ stringToSign c terms)] ++ found.2.2 }

end Session

/-- One of the two rules of this library. -/
def HashRule.IsBuiltin (rule : HashRule) : Prop := rule = .sha256 ∨ rule = .unsigned

theorem HashRule.IsBuiltin.draft_eq {rule : HashRule} (builtin : rule.IsBuiltin) (d : Draft)
    (payload : Payload) : (rule.hash d payload).2.1 = d := by
  obtain rfl | rfl := builtin
  · cases payload <;> rfl
  · rfl

/-- A rule of this library looks at the payload alone. -/
theorem HashRule.IsBuiltin.ignores_draft {rule : HashRule} (builtin : rule.IsBuiltin) (d e : Draft)
    (payload : Payload) :
    (rule.hash d payload).1 = (rule.hash e payload).1 ∧
      (rule.hash d payload).2.2 = (rule.hash e payload).2.2 := by
  obtain rfl | rfl := builtin
  · cases payload <;> exact ⟨rfl, rfl⟩
  · exact ⟨rfl, rfl⟩

namespace Signing

theorem bind_ok_iff {α β : Type} {step : Signing α} {next : α → Signing β} {s t : Session} {b : β} :
    (step >>= next).perform s = (.ok b, t) ↔
      ∃ a u, step.perform s = (.ok a, u) ∧ (next a).perform u = (.ok b, t) := by
  rw [perform_bind]
  obtain ⟨result, u⟩ := step.perform s
  cases result with
  | error e => simp
  | ok a =>
    constructor
    · intro run
      exact ⟨a, u, rfl, run⟩
    · rintro ⟨_, _, first, run⟩
      cases first
      exact run

theorem bind_error_iff {α β : Type} {step : Signing α} {next : α → Signing β} {s t : Session}
    {e : Error} :
    (step >>= next).perform s = (.error e, t) ↔
      step.perform s = (.error e, t) ∨
        ∃ a u, step.perform s = (.ok a, u) ∧ (next a).perform u = (.error e, t) := by
  rw [perform_bind]
  obtain ⟨result, u⟩ := step.perform s
  cases result with
  | error fault => simp
  | ok a =>
    constructor
    · intro run
      exact .inr ⟨a, u, rfl, run⟩
    · rintro (failed | ⟨_, _, first, run⟩)
      · cases failed
      · cases first
        exact run

theorem perform_bind_of_ok {α β : Type} {step : Signing α} {next : α → Signing β} {s t : Session}
    {a : α} (first : step.perform s = (.ok a, t)) :
    (step >>= next).perform s = (next a).perform t := by
  rw [perform_bind, first]

theorem perform_addPairs (pairs : List (String × String)) (s : Session) :
    (addPairs pairs).perform s = (.ok (), { s with draft := s.draft.addPairs pairs }) := rfl

theorem perform_setHeader (n : HeaderName) (text : String) (sensitive : Bool) (s : Session) :
    (setHeader n text sensitive).perform s =
      match HeaderValue.ofText? text sensitive with
      | .ok v => (.ok (), s.withHeaders (s.draft.headers.insert n v))
      | .error fault => (.error (Draft.unwritable n fault), s) := by
  simp only [setHeader, perform_bind, perform_get, perform_ofExcept, Draft.setHeader]
  cases HeaderValue.ofText? text sensitive <;> rfl

theorem setHeader_ok_iff {n : HeaderName} {text : String} {sensitive : Bool} {s t : Session} :
    (setHeader n text sensitive).perform s = (.ok (), t) ↔
      ∃ k, s.draft.headers.SetTo n (some text) sensitive k ∧ t = s.withHeaders k := by
  rw [perform_setHeader]
  constructor
  · intro run
    split at run
    · rename_i v value
      cases run
      exact ⟨s.draft.headers.insert n v, .written value, rfl⟩
    · cases run
  · rintro ⟨k, set, rfl⟩
    cases set with
    | written value => rw [value]

/-- A text that a field cannot hold leaves the session as it is. -/
theorem setHeader_error {n : HeaderName} {text : String} {sensitive : Bool} {s t : Session}
    {e : Error} (run : (setHeader n text sensitive).perform s = (.error e, t)) :
    ¬IsFieldText text ∧ t = s := by
  rw [perform_setHeader] at run
  split at run
  · cases run
  · rename_i fault refused
    cases run
    refine ⟨fun writable => ?_, rfl⟩
    obtain ⟨v, value⟩ := HeaderValue.exists_ofText? sensitive writable
    rw [refused] at value
    cases value

/-- A field without a text stays as it is. -/
theorem pure_ok_iff {n : HeaderName} {sensitive : Bool} {s t : Session} :
    (pure () : Signing Unit).perform s = (.ok (), t) ↔
      ∃ k, s.draft.headers.SetTo n none sensitive k ∧ t = s.withHeaders k := by
  constructor
  · intro run
    cases run
    exact ⟨s.draft.headers, .kept, rfl⟩
  · rintro ⟨k, set, rfl⟩
    cases set with
    | kept => rfl

theorem perform_hashPayload (rule : HashRule) (s : Session) :
    (hashPayload rule).perform s =
      ((rule.hash s.draft s.payload).1,
        { s with
          draft := (rule.hash s.draft s.payload).2.1
          payload := (rule.hash s.draft s.payload).2.2 }) := by
  simp only [hashPayload, perform_bind, perform_get, perform_set, perform_ofExcept]

/-- A rule of this library finds the same whatever the draft `d` that it is given. -/
theorem hashPayload_ok_iff {rule : HashRule} (builtin : rule.IsBuiltin) (d : Draft) {hash : String}
    {s t : Session} :
    (hashPayload rule).perform s = (.ok hash, t) ↔
      (rule.hash d s.payload).1 = .ok hash ∧
        t = { s with payload := (rule.hash d s.payload).2.2 } := by
  obtain ⟨result, payload⟩ := builtin.ignores_draft s.draft d s.payload
  rw [perform_hashPayload, builtin.draft_eq, result, payload, Prod.mk.injEq, eq_comm (b := t)]

theorem perform_signature (c : CanonicalRequest) (cred : Credential) (terms : SigningTerms)
    (s : Session) :
    (signature c cred terms).perform s =
      (.ok (.of (s.key cred terms) c terms), s.afterSignature c cred terms) := rfl

end Signing

namespace SigningProfile

theorem signEither_true (p : SigningProfile) (cred : Credential) (terms : SigningTerms) :
    p.signEither true cred terms = p.presign cred terms := if_pos rfl

theorem signEither_false (p : SigningProfile) (cred : Credential) (terms : SigningTerms) :
    p.signEither false cred terms = p.sign cred terms := if_neg Bool.false_ne_true

theorem perform_canonical (hash : String) (terms : SigningTerms) (s : Session) :
    (canonical hash terms).perform s = (.ok (.ofDraft s.draft hash terms.double), s) := rfl

theorem setToken_ok_iff {cred : Credential} {s t : Session} :
    (setToken cred).perform s = (.ok (), t) ↔
      ∃ k, s.draft.headers.SetTo .securityToken cred.sessionToken true k ∧ t = s.withHeaders k := by
  unfold setToken
  cases cred.sessionToken with
  | none => exact Signing.pure_ok_iff
  | some token => exact Signing.setHeader_ok_iff

theorem setHost_ok_iff {s t : Session} :
    setHost.perform s = (.ok (), t) ↔
      ∃ k, s.draft.headers.SetTo .host (some s.draft.hostText) false k ∧ t = s.withHeaders k := by
  simp only [setHost, Signing.perform_bind, Signing.perform_get, Signing.setHeader_ok_iff]

/-- The hash, where a field asks for it. -/
def requestedHash (d : Draft) (hash : String) : Option String :=
  if d.headerText? .contentHash = some hashRequired then some hash else none

theorem requestedHash_congr {d e : Draft}
    (same : d.headers.values .contentHash = e.headers.values .contentHash) (hash : String) :
    requestedHash d hash = requestedHash e hash := by
  have read : d.headerText? .contentHash = e.headerText? .contentHash := Headers.text?_congr same
  rw [requestedHash, requestedHash, read]

theorem setHash_ok_iff {hash : String} {s t : Session} :
    (setHash hash).perform s = (.ok (), t) ↔
      ∃ k, s.draft.headers.SetTo .contentHash (requestedHash s.draft hash) false k ∧
        t = s.withHeaders k := by
  simp only [setHash, Signing.perform_bind, Signing.perform_get, requestedHash]
  by_cases asked : s.draft.headerText? .contentHash = some hashRequired
  · rw [if_pos asked, if_pos asked]
    exact Signing.setHeader_ok_iff
  · rw [if_neg asked, if_neg asked]
    exact Signing.pure_ok_iff

/-- Only a hash that a field asks for can fail to be written. -/
theorem setHash_error {hash : String} {s t : Session} {e : Error}
    (run : (setHash hash).perform s = (.error e, t)) :
    s.draft.headerText? .contentHash = some hashRequired ∧ ¬IsFieldText hash ∧ t = s := by
  rw [setHash, Signing.perform_bind_of_ok (Signing.perform_get s)] at run
  split at run
  · rename_i asked
    exact ⟨asked, Signing.setHeader_error run⟩
  · cases run

/-- Behind a hook that changes nothing there is one call more. -/
theorem perform_runHook {p : SigningProfile} (hook : p.hook = .nothing) (signature : Signature)
    (terms : SigningTerms) (s : Session) :
    (p.runHook signature terms).perform s =
      (.ok (), { s with calls := s.calls ++ [HookCall.mk signature s.payload terms] }) := by
  simp only [runHook, hook]
  rfl

end SigningProfile

end RequestSigning
