import RequestSigning.Signing.Reuse

/-!
# Histories of a signer that reuses its credential

`call_reuses` says of one call when the source is asked, what the request is signed with and what is
stored behind it, and `history_reuses` says it of each call of a history.  How a stored credential is
judged is left open, and may change from call to call.
-/

namespace RequestSigning

open Http

/-- A call of a signer, with the verdict on a stored credential at that moment. -/
structure SignCall where
  usable : Credential → Bool
  now : Instant
  head : Head
  expiresIn : Option Duration

namespace ReusingSigner

variable {σ : Type}

def call (s : ReusingSigner σ) (c : SignCall) : Reuse σ :=
  s.signJudged c.usable c.now c.head c.expiresIn

/-- A call judges by the end of validity. -/
theorem sign_eq_call (s : ReusingSigner σ) (checkedAt now : Instant) (head : Head)
    (expiresIn : Option Duration) :
    s.sign checkedAt now head expiresIn =
      s.call ⟨fun cred => cred.isUsable checkedAt, now, head, expiresIn⟩ := rfl

/-- Calls one after the other, each with what it left. -/
def history (s : ReusingSigner σ) : List SignCall → List (SignCall × Reuse σ)
  | [] => []
  | c :: rest => (c, s.call c) :: (s.call c).signer.history rest

/-- `done` is the call signed with `cred`, which is stored from then on. -/
structure SignedWith (s : ReusingSigner σ) (c : SignCall) (cred : Option Credential)
    (done : Reuse σ) : Prop where
  result : done.result = (s.profile.signAt c.now c.head cred c.expiresIn s.cache).result
  head : done.head = (s.profile.signAt c.now c.head cred c.expiresIn s.cache).head
  cache : done.signer.cache = (s.profile.signAt c.now c.head cred c.expiresIn s.cache).cache
  stored : done.signer.stored = cred

/-- The call changed neither the request nor what the signer holds. -/
structure Untouched (s : ReusingSigner σ) (c : SignCall) (done : Reuse σ) : Prop where
  head : done.head = c.head
  cache : done.signer.cache = s.cache
  stored : done.signer.stored = s.stored

/-- What is to hold of a call of the signer `s`. -/
structure Reuses (s : ReusingSigner σ) (c : SignCall) (done : Reuse σ) : Prop where
  asked : done.asked = true ↔
    s.stored = none ∨ ∃ cred, s.stored = some cred ∧ c.usable cred = false
  kept : done.asked = false →
    SignedWith s c s.stored done ∧ done.signer.sourceState = s.sourceState
  answered : done.asked = true → done.signer.sourceState = (s.source.ask s.sourceState).2
  loaded : done.asked = true → ∀ cred, (s.source.ask s.sourceState).1 = .ok cred →
    SignedWith s c cred done
  failed : done.asked = true → ∀ e, (s.source.ask s.sourceState).1 = .error e →
    done.result = .error e ∧ Untouched s c done
  same : done.signer.profile = s.profile ∧ done.signer.source = s.source

/-- Each call of a history is one of the signer that the calls before left. -/
inductive Follows : ReusingSigner σ → List (SignCall × Reuse σ) → Prop
  | nil (s : ReusingSigner σ) : Follows s []
  | cons {s : ReusingSigner σ} {c : SignCall} {done : Reuse σ}
      {rest : List (SignCall × Reuse σ)} (first : Reuses s c done)
      (later : Follows done.signer rest) : Follows s ((c, done) :: rest)

variable {s : ReusingSigner σ} {c : SignCall}

/-- A stored credential is passed over exactly when there is none that is judged to be usable. -/
theorem any_eq_false_iff {stored : Option Credential} {usable : Credential → Bool} :
    stored.any usable = false ↔
      stored = none ∨ ∃ cred, stored = some cred ∧ usable cred = false := by
  cases stored with
  | none => simp
  | some cred => simp

theorem call_kept (usable : s.stored.any c.usable = true) :
    s.call c = s.signStored c.now c.head c.expiresIn false [] := by
  rw [call, signJudged, if_pos usable]

theorem call_failed {e : Error} {state : σ} (unusable : s.stored.any c.usable = false)
    (answer : s.source.ask s.sourceState = (.error e, state)) :
    s.call c = ⟨.error e, c.head, { s with sourceState := state }, true, [reloadEntry]⟩ := by
  rw [call, signJudged, unusable, if_neg Bool.false_ne_true, answer]

theorem call_loaded {cred : Option Credential} {state : σ}
    (unusable : s.stored.any c.usable = false)
    (answer : s.source.ask s.sourceState = (.ok cred, state)) :
    s.call c = signStored { s with sourceState := state, stored := cred } c.now c.head c.expiresIn
      true [reloadEntry] := by
  rw [call, signJudged, unusable, if_neg Bool.false_ne_true, answer]

theorem call_reuses (s : ReusingSigner σ) (c : SignCall) : Reuses s c (s.call c) := by
  cases judged : s.stored.any c.usable with
  | true =>
    have present : ¬(s.stored = none ∨ ∃ cred, s.stored = some cred ∧ c.usable cred = false) := by
      rw [← any_eq_false_iff, judged]
      exact Bool.noConfusion
    rw [call_kept judged]
    exact {
      asked := ⟨Bool.noConfusion, fun missing => absurd missing present⟩
      kept := fun _ => ⟨⟨rfl, rfl, rfl, rfl⟩, rfl⟩
      answered := Bool.noConfusion
      loaded := Bool.noConfusion
      failed := Bool.noConfusion
      same := ⟨rfl, rfl⟩ }
  | false =>
    have missing := any_eq_false_iff.mp judged
    obtain ⟨answer, state, given⟩ :
        ∃ answer state, s.source.ask s.sourceState = (answer, state) := ⟨_, _, rfl⟩
    cases answer with
    | error e =>
      rw [call_failed judged given]
      exact {
        asked := ⟨fun _ => missing, fun _ => rfl⟩
        kept := Bool.noConfusion
        answered := fun _ => by rw [given]
        loaded := fun _ cred loaded => by rw [given] at loaded; cases loaded
        failed := fun _ f failed => by
          rw [given] at failed
          cases failed
          exact ⟨rfl, rfl, rfl, rfl⟩
        same := ⟨rfl, rfl⟩ }
    | ok cred =>
      rw [call_loaded judged given]
      exact {
        asked := ⟨fun _ => missing, fun _ => rfl⟩
        kept := Bool.noConfusion
        answered := fun _ => by rw [given]; rfl
        loaded := fun _ loaded same => by
          rw [given] at same
          cases same
          exact ⟨rfl, rfl, rfl, rfl⟩
        failed := fun _ e failed => by rw [given] at failed; cases failed
        same := ⟨rfl, rfl⟩ }

/-- In each call of every history the source is asked exactly when no credential is stored that is
judged to be usable; the request is signed with the stored credential, or else with what the source
gives, and that is stored; and an error of the source is the result of a call that changes nothing. -/
theorem history_reuses (s : ReusingSigner σ) (calls : List SignCall) :
    (s.history calls).map (·.1) = calls ∧ Follows s (s.history calls) := by
  induction calls generalizing s with
  | nil => exact ⟨rfl, .nil s⟩
  | cons c rest ih =>
    obtain ⟨made, later⟩ := ih (s.call c).signer
    exact ⟨congrArg (c :: ·) made, .cons (call_reuses s c) later⟩

end ReusingSigner

end RequestSigning
