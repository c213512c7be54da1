import RequestSigning.Proofs.Signing.Query

/-!
# What a signature leaves alone

`Within R` says of a step that `R` relates the draft before it to the draft behind it, whether the
step succeeds or fails.  A sequence stays within a relation when each step does, and so
`within_signWith` and `within_presignWith`: one signature sets header fields, the other the `host`
field and the query.  `Keeps f` is the case that the part `f` of the draft is the same.
-/

namespace RequestSigning

open Http

variable {β γ : Type} {f : Draft → β} {R : Draft → Draft → Prop}

/-- A relation that holds across a sequence of steps if it holds across each of them. -/
structure Draft.IsFrame (R : Draft → Draft → Prop) : Prop where
  refl : ∀ d, R d d
  trans : ∀ {c d e}, R c d → R d e → R c e

theorem Draft.isFrame_of_part (f : Draft → β) : IsFrame fun d e => f e = f d where
  refl _ := rfl
  trans first second := second.trans first

def HashRule.Within (R : Draft → Draft → Prop) (rule : HashRule) : Prop :=
  ∀ d payload, R d (rule.hash d payload).2.1

def SignatureHook.Within (R : Draft → Draft → Prop) (hook : SignatureHook) : Prop :=
  ∀ d payload signature terms, R d (hook.run d payload signature terms).2.1

/-- Rules and hook stay within a relation. -/
structure SigningProfile.Within (R : Draft → Draft → Prop) (p : SigningProfile) : Prop where
  rule : p.rule.Within R
  queryRule : p.queryRule.Within R
  hook : p.hook.Within R

/-- With the rules of this library and without a hook no relation is left. -/
theorem SigningProfile.within_of_isBuiltin {p : SigningProfile} (frame : Draft.IsFrame R)
    (rule : p.rule.IsBuiltin) (queryRule : p.queryRule.IsBuiltin) (hook : p.hook = .nothing) :
    p.Within R where
  rule d payload := by
    rw [rule.draft_eq]
    exact frame.refl d
  queryRule d payload := by
    rw [queryRule.draft_eq]
    exact frame.refl d
  hook := by
    rw [hook]
    exact fun d _ _ _ => frame.refl d

/-- A rule keeps a part of the draft. -/
def HashRule.Keeps (f : Draft → β) (rule : HashRule) : Prop :=
  ∀ d payload, f (rule.hash d payload).2.1 = f d

def SignatureHook.Keeps (f : Draft → β) (hook : SignatureHook) : Prop :=
  ∀ d payload signature terms, f (hook.run d payload signature terms).2.1 = f d

/-- Rules and hook keep a part of the draft. -/
structure SigningProfile.Keeps (f : Draft → β) (p : SigningProfile) : Prop where
  rule : p.rule.Keeps f
  queryRule : p.queryRule.Keeps f
  hook : p.hook.Keeps f

theorem SigningProfile.Keeps.weaken {p : SigningProfile} (keeps : p.Keeps f) {g : Draft → γ}
    (follows : ∀ d e, f d = f e → g d = g e) : p.Keeps g where
  rule d payload := follows _ _ (keeps.rule d payload)
  queryRule d payload := follows _ _ (keeps.queryRule d payload)
  hook d payload signature terms := follows _ _ (keeps.hook d payload signature terms)

theorem SigningProfile.Keeps.within {p : SigningProfile} (keeps : p.Keeps f) :
    p.Within fun d e => f e = f d :=
  ⟨keeps.rule, keeps.queryRule, keeps.hook⟩

theorem SigningProfile.keeps_of_isBuiltin {p : SigningProfile} (rule : p.rule.IsBuiltin)
    (queryRule : p.queryRule.IsBuiltin) (hook : p.hook = .nothing) : p.Keeps f :=
  have within := within_of_isBuiltin (Draft.isFrame_of_part f) rule queryRule hook
  ⟨within.rule, within.queryRule, within.hook⟩

namespace Signing

/-- Whether it succeeds or fails, the step takes a draft to one that it is related to. -/
def Within {α : Type} (R : Draft → Draft → Prop) (step : Signing α) : Prop :=
  ∀ s, R s.draft (step.perform s).2.draft

/-- Whether it succeeds or fails, the step leaves this part of the draft as it is. -/
def Keeps {α : Type} (f : Draft → β) (step : Signing α) : Prop :=
  ∀ s, f (step.perform s).2.draft = f s.draft

theorem Within.of_perform {α : Type} {step : Signing α} {s t : Session} {r : Except Error α}
    (within : Within R step) (run : step.perform s = (r, t)) : R s.draft t.draft := by
  have related := within s
  rw [run] at related
  exact related

theorem Keeps.of_perform {α : Type} {step : Signing α} {s t : Session} {r : Except Error α}
    (keeps : Keeps f step) (run : step.perform s = (r, t)) : f t.draft = f s.draft :=
  Within.of_perform (R := fun d e => f e = f d) keeps run

theorem within_bind {α γ : Type} {step : Signing α} {next : α → Signing γ} (frame : Draft.IsFrame R)
    (first : Within R step) (later : ∀ a, Within R (next a)) : Within R (step >>= next) := by
  intro s
  cases run : step.perform s with
  | mk result t =>
    have before := first.of_perform run
    rw [perform_bind, run]
    cases result with
    | error e => exact before
    | ok a => exact frame.trans before (later a t)

/-- What comes next may depend on the session as it is. -/
theorem within_get_bind {next : Session → Signing γ}
    (later : ∀ s, R s.draft ((next s).perform s).2.draft) : Within R (get >>= next) := by
  intro s
  rw [perform_bind_of_ok (perform_get s)]
  exact later s

theorem within_of_untouched {α : Type} {step : Signing α} (frame : Draft.IsFrame R)
    (untouched : ∀ s, (step.perform s).2.draft = s.draft) : Within R step := by
  intro s
  rw [untouched]
  exact frame.refl s.draft

theorem within_pure {α : Type} (frame : Draft.IsFrame R) (a : α) : Within R (pure a) :=
  within_of_untouched frame fun _ => rfl

theorem within_ofExcept {α : Type} (frame : Draft.IsFrame R) (r : Except Error α) :
    Within R (ofExcept r) :=
  within_of_untouched frame fun s => by rw [perform_ofExcept]

theorem within_signature (frame : Draft.IsFrame R) (c : CanonicalRequest) (cred : Credential)
    (terms : SigningTerms) : Within R (signature c cred terms) :=
  within_of_untouched frame fun _ => rfl

theorem related_setHeader {s : Session} {n : HeaderName} (frame : Draft.IsFrame R)
    (insert : ∀ v, R s.draft { s.draft with headers := s.draft.headers.insert n v })
    (text : String) (sensitive : Bool) :
    R s.draft ((setHeader n text sensitive).perform s).2.draft := by
  rw [perform_setHeader]
  cases HeaderValue.ofText? text sensitive with
  | error fault => exact frame.refl s.draft
  | ok v => exact insert v

theorem within_hashPayload {rule : HashRule} (within : rule.Within R) :
    Within R (hashPayload rule) := by
  intro s
  rw [perform_hashPayload]
  exact within s.draft s.payload

theorem keeps_hashPayload {rule : HashRule} (keeps : rule.Keeps f) : Keeps f (hashPayload rule) :=
  within_hashPayload (R := fun d e => f e = f d) keeps

end Signing

/-- The relation holds across setting a field. -/
def Draft.AllowsField (R : Draft → Draft → Prop) (n : HeaderName) : Prop :=
  ∀ d v, R d { d with headers := d.headers.insert n v }

/-- The relation holds across adding pairs to the query. -/
def Draft.AllowsPairs (R : Draft → Draft → Prop) : Prop := ∀ d pairs, R d (d.addPairs pairs)

namespace SigningProfile

open Signing

variable {p : SigningProfile}

theorem within_setToken {cred : Credential} (frame : Draft.IsFrame R)
    (token : cred.sessionToken.isSome = true → Draft.AllowsField R .securityToken) :
    Signing.Within R (setToken cred) := by
  unfold setToken
  cases present : cred.sessionToken with
  | none => exact within_pure frame ()
  | some text =>
    intro s
    exact related_setHeader frame (token (present ▸ rfl) s.draft) text true

theorem within_setHost (frame : Draft.IsFrame R) (host : Draft.AllowsField R .host) :
    Signing.Within R setHost :=
  within_get_bind fun s => related_setHeader frame (host s.draft) _ _

/-- The field of the hash is set only where it asks for it. -/
theorem within_setHash (frame : Draft.IsFrame R)
    (requested : ∀ d v, d.headerText? .contentHash = some hashRequired →
      R d { d with headers := d.headers.insert .contentHash v }) (hash : String) :
    Signing.Within R (setHash hash) := by
  refine within_get_bind fun s => ?_
  split
  · rename_i asked
    exact related_setHeader frame (fun v => requested s.draft v asked) hash false
  · exact frame.refl s.draft

theorem within_runHook (within : p.hook.Within R) (signature : Signature) (terms : SigningTerms) :
    Signing.Within R (p.runHook signature terms) := by
  intro s
  simp only [runHook, perform_bind, perform_get, perform_set, perform_ofExcept]
  exact within s.draft s.payload signature terms

theorem keeps_runHook (hook : p.hook.Keeps f) (signature : Signature) (terms : SigningTerms) :
    Signing.Keeps f (p.runHook signature terms) :=
  within_runHook (R := fun d e => f e = f d) hook signature terms

/-- What a signature in the fields does behind token, host and date. -/
def authorize (p : SigningProfile) (cred : Credential) (terms : SigningTerms) : Signing Unit := do
  let hash ← Signing.hashPayload p.rule
  setHash hash
  let c ← canonical hash terms
  let signature ← Signing.signature c cred terms
  Signing.setHeader .authorization (authorization cred terms c signature.text) true
  p.runHook signature terms

theorem signWith_eq (p : SigningProfile) (cred : Credential) (terms : SigningTerms) :
    p.signWith cred terms = (do
      setToken cred
      setHost
      Signing.setHeader .date terms.time.compact false
      p.authorize cred terms) := rfl

theorem within_authorize (frame : Draft.IsFrame R)
    (requested : ∀ d v, d.headerText? .contentHash = some hashRequired →
      R d { d with headers := d.headers.insert .contentHash v })
    (authorization : Draft.AllowsField R .authorization) (within : p.Within R) (cred : Credential)
    (terms : SigningTerms) : Signing.Within R (p.authorize cred terms) := by
  refine within_bind frame (within_hashPayload within.rule) fun hash => ?_
  refine within_bind frame (within_setHash frame requested hash) fun _ => ?_
  refine within_bind frame (within_of_untouched frame fun _ => rfl) fun c => ?_
  refine within_bind frame (within_signature frame c cred terms) fun signature => ?_
  refine within_bind frame ?_ fun _ => within_runHook within.hook signature terms
  intro s
  exact related_setHeader frame (authorization s.draft) _ _

/-- A signature in the fields sets no others than these. -/
theorem within_signWith {cred : Credential} (frame : Draft.IsFrame R)
    (token : cred.sessionToken.isSome = true → Draft.AllowsField R .securityToken)
    (host : Draft.AllowsField R .host) (date : Draft.AllowsField R .date)
    (requested : ∀ d v, d.headerText? .contentHash = some hashRequired →
      R d { d with headers := d.headers.insert .contentHash v })
    (authorization : Draft.AllowsField R .authorization) (within : p.Within R)
    (terms : SigningTerms) : Signing.Within R (p.signWith cred terms) := by
  rw [signWith_eq]
  refine within_bind frame (within_setToken frame token) fun _ => ?_
  refine within_bind frame (within_setHost frame host) fun _ => ?_
  refine within_bind frame ?_ fun _ =>
    within_authorize frame requested authorization within cred terms
  intro s
  exact related_setHeader frame (date s.draft) _ _

/-- A signature in the query sets the host and adds pairs. -/
theorem within_presignWith (frame : Draft.IsFrame R) (host : Draft.AllowsField R .host)
    (pairs : Draft.AllowsPairs R) (within : p.Within R) (cred : Credential)
    (terms : SigningTerms) : Signing.Within R (p.presignWith cred terms) := by
  refine within_bind frame (within_ofExcept frame _) fun seconds => ?_
  refine within_bind frame (within_setHost frame host) fun _ => ?_
  refine within_bind frame (fun s => pairs s.draft _) fun _ => ?_
  refine within_bind frame (within_hashPayload within.queryRule) fun hash => ?_
  refine within_bind frame (within_of_untouched frame fun _ => rfl) fun c => ?_
  refine within_bind frame (within_signature frame c cred terms) fun signature => ?_
  exact fun s => pairs s.draft _

theorem keeps_authorize
    (hash : ∀ d v, f { d with headers := d.headers.insert .contentHash v } = f d)
    (authorization : ∀ d v, f { d with headers := d.headers.insert .authorization v } = f d)
    (keeps : p.Keeps f) (cred : Credential) (terms : SigningTerms) :
    Signing.Keeps f (p.authorize cred terms) :=
  within_authorize (Draft.isFrame_of_part f) (fun d v _ => hash d v) authorization keeps.within cred
    terms

/-- A signature in the fields leaves alone whatever does not depend on header fields. -/
theorem keeps_signWith (fields : ∀ d h, f { d with headers := h } = f d) (keeps : p.Keeps f)
    (cred : Credential) (terms : SigningTerms) : Signing.Keeps f (p.signWith cred terms) := by
  have allows : ∀ n, Draft.AllowsField (fun d e => f e = f d) n :=
    fun n d v => fields d (d.headers.insert n v)
  exact within_signWith (Draft.isFrame_of_part f) (fun _ => allows _) (allows _) (allows _)
    (fun d v _ => allows _ d v) (allows _) keeps.within terms

/-- A signature in the query leaves alone what depends neither on the host nor on the query. -/
theorem keeps_presignWith
    (insert : ∀ d v, f { d with headers := d.headers.insert .host v } = f d)
    (added : ∀ d pairs, f (d.addPairs pairs) = f d) (keeps : p.Keeps f) (cred : Credential)
    (terms : SigningTerms) : Signing.Keeps f (p.presignWith cred terms) :=
  within_presignWith (Draft.isFrame_of_part f) insert added keeps.within cred terms

end SigningProfile

end RequestSigning
