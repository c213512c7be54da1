import RequestSigning.Signing.Head

/-!
# Credential reuse

A signer keeps the credential it signed with last, and asks its source for another only when that
one can no longer be used.
-/

namespace RequestSigning

open Http

/-- Where credentials come from.  Asking may change its state. -/
structure CredentialSource (σ : Type) where
  ask : σ → Except Error (Option Credential) × σ

namespace CredentialSource

def constant (cred : Credential) : CredentialSource Unit := ⟨fun s => (.ok (some cred), s)⟩

/-- One answer after the other, then none. -/
def scripted : CredentialSource (List (Except Error (Option Credential))) where
  ask := fun script =>
    match script with
    | [] => (.ok none, [])
    | answer :: rest => (answer, rest)

end CredentialSource

/-- A profile with a source of credentials, the credential it has and its key cache. -/
structure ReusingSigner (σ : Type) where
  profile : SigningProfile
  source : CredentialSource σ
  sourceState : σ
  stored : Option Credential
  cache : KeyCache

structure Reuse (σ : Type) where
  result : Except Error Unit
  head : Head
  signer : ReusingSigner σ
  asked : Bool
  log : List Log.Entry

namespace ReusingSigner

variable {σ : Type}

def reloadEntry : Log.Entry :=
  .debug "cached credential is missing or expired, loading a new one"

def holdsUsable (stored : Option Credential) (now : Instant) : Bool := stored.any (·.isUsable now)

def signStored (s : ReusingSigner σ) (now : Instant) (head : Head) (expiresIn : Option Duration)
    (asked : Bool) (log : List Log.Entry) : Reuse σ :=
  let signed := s.profile.signAt now head s.stored expiresIn s.cache
  ⟨signed.result, signed.head, { s with cache := signed.cache }, asked, log ++ signed.log⟩

/-- Sign at `now`, with the stored credential where that is judged to be usable. -/
def signJudged (s : ReusingSigner σ) (usable : Credential → Bool) (now : Instant) (head : Head)
    (expiresIn : Option Duration) : Reuse σ :=
  if s.stored.any usable then s.signStored now head expiresIn false []
  else
    match s.source.ask s.sourceState with
    | (.error e, state) => ⟨.error e, head, { s with sourceState := state }, true, [reloadEntry]⟩
    | (.ok loaded, state) =>
      signStored { s with sourceState := state, stored := loaded } now head expiresIn true
        [reloadEntry]

/-- Sign at `now`, after a look at the stored credential at `checkedAt`. -/
def sign (s : ReusingSigner σ) (checkedAt now : Instant) (head : Head)
    (expiresIn : Option Duration) : Reuse σ :=
  s.signJudged (fun cred => holdsUsable (some cred) checkedAt) now head expiresIn

end ReusingSigner

end RequestSigning
