import RequestSigning.Canonical.Request
import RequestSigning.Credential
import RequestSigning.Key.Cache
import RequestSigning.Payload.Hash
import RequestSigning.SigningTerms

/-!
# Signing sessions

What one signature works on: the draft of a request, its payload, the key cache and the log.  A
`Signing` step can fail, and the session then is as the steps before left it.  `perform_bind`: one
step is performed on what the step before it left.
-/

namespace RequestSigning

open Http

structure Signature where
  text : String
  key : Bytes
  deriving DecidableEq, Repr

/-- A call of the hook behind a signature, with the payload as it was then. -/
structure HookCall where
  signature : Signature
  payload : Payload
  terms : SigningTerms
  deriving DecidableEq

structure Session where
  draft : Draft
  payload : Payload
  cache : KeyCache
  log : List Log.Entry
  calls : List HookCall

abbrev Signing := ExceptT Error (StateM Session)

namespace Signing

def perform {α : Type} (step : Signing α) (s : Session) : Except Error α × Session :=
  StateT.run (ExceptT.run step) s

/-- Go on with a value, or fail. -/
def ofExcept {α : Type} : Except Error α → Signing α
  | .ok a => pure a
  | .error e => throw e

def note (entries : List Log.Entry) : Signing Unit :=
  modify fun s => { s with log := s.log ++ entries }

def setHeader (name : HeaderName) (value : String) (sensitive : Bool) : Signing Unit := do
  let s ← get
  let draft ← ofExcept (s.draft.setHeader name value sensitive)
  set { s with draft := draft }

def addPairs (pairs : List (String × String)) : Signing Unit :=
  modify fun s => { s with draft := s.draft.addPairs pairs }

/-- The text that stands for the payload. -/
def hashPayload (rule : HashRule) : Signing String := do
  let s ← get
  let hashed := rule.hash s.draft s.payload
  set { s with draft := hashed.2.1, payload := hashed.2.2 }
  ofExcept hashed.1

def signingKey (cred : Credential) (terms : SigningTerms) : Signing Bytes := do
  let s ← get
  let found := s.cache.signingKey cred.secretKey terms.time terms.region terms.service
  set { s with cache := found.2.1, log := s.log ++ found.2.2 }
  pure found.1

@[simp] theorem perform_pure {α : Type} (a : α) (s : Session) :
    (pure a : Signing α).perform s = (.ok a, s) := rfl

@[simp] theorem perform_get (s : Session) : (get : Signing Session).perform s = (.ok s, s) := rfl

@[simp] theorem perform_set (s t : Session) : (set t : Signing PUnit).perform s = (.ok ⟨⟩, t) := rfl

@[simp] theorem perform_modify (f : Session → Session) (s : Session) :
    (modify f : Signing PUnit).perform s = (.ok ⟨⟩, f s) := rfl

@[simp] theorem perform_ofExcept {α : Type} (r : Except Error α) (s : Session) :
    (ofExcept r).perform s = (r, s) := by
  cases r <;> rfl

theorem perform_bind {α β : Type} (step : Signing α) (next : α → Signing β) (s : Session) :
    (step >>= next).perform s = match step.perform s with
      | (.ok a, t) => (next a).perform t
      | (.error e, t) => (.error e, t) := by
  simp only [perform, bind, ExceptT.bind, ExceptT.mk, StateT.bind, ExceptT.run, StateT.run,
    ExceptT.bindCont]
  rcases step s with ⟨_ | _, _⟩ <;> rfl

end Signing

end RequestSigning
