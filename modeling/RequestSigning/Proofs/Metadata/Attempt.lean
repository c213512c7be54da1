import RequestSigning.Proofs.Metadata.Turn

/-!
# One attempt

`Attempted` relates an attempt to the requests that it sends, to its result and to what it leaves,
from one rule for each way through the request for a token and the request for the value.
-/

namespace RequestSigning.Metadata

open Http

/-- The turns of one attempt: for a token, if it asks for one, and for the value, if it gets that
far. -/
structure Conversation where
  put : Option Turn
  get : Option Turn

def Conversation.turns (k : Conversation) : List Turn := k.put.toList ++ k.get.toList

namespace Visit

/-- The cached token need not be replaced at the next reading of the clock. -/
def IsFresh (v : Visit) (clock : Nat → Instant) (t : SessionToken) : Prop :=
  v.token = some t ∧ (clock v.readings).before t.refreshAt = true

/-- Where there is a cached token, the clock is read to check it. -/
def checked (v : Visit) : Visit :=
  v.token.elim v fun _ => { v with readings := v.readings + 1 }

end Visit

section

variable (c : Client) (ctx : Surroundings)

/-- The cached token is used, or a new one is asked for. -/
inductive Loads (v : Visit) : Option Turn → Except Failure String → Visit → Prop
  | reused {token : SessionToken} (fresh : v.IsFresh ctx.clock token) :
      Loads v none (.ok token.text) v.checked
  | unbuilt {e : Error} (stale : ∀ token, ¬v.IsFresh ctx.clock token)
      (built : tokenRequest (c.endpointText ctx.environment) c.ttl = .error e) :
      Loads v none (.error (.error e)) v.checked
  | refused {turn : Turn} {t : Transport} {e : Error}
      (stale : ∀ token, ¬v.IsFresh ctx.clock token)
      (built : tokenRequest (c.endpointText ctx.environment) c.ttl = .ok turn.request)
      (sent : Answers v.transport [turn] t) (rejected : answer .token turn.outcome = .error e) :
      Loads v (some turn) (.error (.error e)) { v.checked with transport := t }
  | overflowed {turn : Turn} {t : Transport} {text : String}
      (stale : ∀ token, ¬v.IsFresh ctx.clock token)
      (built : tokenRequest (c.endpointText ctx.environment) c.ttl = .ok turn.request)
      (sent : Answers v.transport [turn] t) (brings : turn.outcome.Brings text)
      (refresh : refreshTime? (ctx.clock v.checked.readings) c.ttl = none) :
      Loads v (some turn) (.error .timeOverflow)
        { v.checked with transport := t, readings := v.checked.readings + 1 }
  | renewed {turn : Turn} {t : Transport} {text : String} {refreshAt : Instant}
      (stale : ∀ token, ¬v.IsFresh ctx.clock token)
      (built : tokenRequest (c.endpointText ctx.environment) c.ttl = .ok turn.request)
      (sent : Answers v.transport [turn] t) (brings : turn.outcome.Brings text)
      (refresh : refreshTime? (ctx.clock v.checked.readings) c.ttl = some refreshAt) :
      Loads v (some turn) (.ok text)
        ⟨some ⟨text, refreshAt⟩, t, v.checked.readings + 1⟩

inductive Fetches (path token : String) (v : Visit) :
    Option Turn → Except Failure String → Visit → Prop
  | unbuilt {e : Error}
      (built : valueRequest (c.endpointText ctx.environment) path token = .error e) :
      Fetches path token v none (.error (.error e)) v
  | answered {turn : Turn} {t : Transport}
      (built : valueRequest (c.endpointText ctx.environment) path token = .ok turn.request)
      (sent : Answers v.transport [turn] t) :
      Fetches path token v (some turn) ((answer .value turn.outcome).mapError .error)
        { v with token := keptToken v.token turn.outcome, transport := t }

inductive Attempted (path : String) (v : Visit) :
    Conversation → Except Failure String → Visit → Prop
  | stopped {put : Option Turn} {failure : Failure} {w : Visit}
      (loads : Loads c ctx v put (.error failure) w) :
      Attempted path v ⟨put, none⟩ (.error failure) w
  | asked {put get : Option Turn} {token : String} {u w : Visit} {r : Except Failure String}
      (loads : Loads c ctx v put (.ok token) u) (fetches : Fetches c ctx path token u get r w) :
      Attempted path v ⟨put, get⟩ r w

end

variable {c : Client} {ctx : Surroundings}

@[simp] theorem Visit.transport_checked (v : Visit) : v.checked.transport = v.transport := by
  unfold Visit.checked
  cases v.token <;> rfl

@[simp] theorem Visit.token_checked (v : Visit) : v.checked.token = v.token := by
  unfold Visit.checked
  cases cached : v.token with
  | none => exact cached
  | some token => rfl

theorem Visit.readings_le_checked (v : Visit) : v.readings ≤ v.checked.readings := by
  unfold Visit.checked
  cases v.token with
  | none => exact Nat.le_refl _
  | some token => exact Nat.le_succ _

theorem loads_requestToken {v : Visit} (stale : ∀ token, ¬v.IsFresh ctx.clock token) (now : Nat) :
    ∃ put, Loads c ctx v put (c.requestToken ctx now v.checked).result
      (c.requestToken ctx now v.checked).state := by
  unfold Client.requestToken
  split
  · rename_i e built
    exact ⟨none, .unbuilt stale built⟩
  · rename_i request built
    have sent := Answers.send v.transport request
    simp only [Visit.send, Visit.read, Visit.transport_checked]
    split
    · rename_i e rejected
      exact ⟨some _, .refused stale built sent rejected⟩
    · rename_i text answered
      have brings := answer_eq_ok_iff.mp answered
      split
      · rename_i refresh
        exact ⟨some _, .overflowed stale built sent brings refresh⟩
      · rename_i refreshAt refresh
        exact ⟨some _, .renewed stale built sent brings refresh⟩

theorem fresh?_eq_some_iff {v : Visit} {clock : Nat → Instant} {cached : SessionToken}
    {text : String} (found : v.token = some cached) :
    fresh? (some cached) (clock v.readings) = some text ↔
      v.IsFresh clock cached ∧ cached.text = text := by
  simp [fresh?, Visit.IsFresh, found, and_assoc]

theorem loads_obtainToken (c : Client) (ctx : Surroundings) (now : Nat) (v : Visit) :
    ∃ put, Loads c ctx v put (c.obtainToken ctx now v).result (c.obtainToken ctx now v).state := by
  unfold Client.obtainToken
  split
  · rename_i uncached
    have same : v.checked = v := by rw [Visit.checked, uncached]; rfl
    have stale : ∀ token, ¬v.IsFresh ctx.clock token := by
      intro token fresh
      cases uncached.symm.trans fresh.1
    have loads := loads_requestToken (c := c) stale now
    rwa [same] at loads
  · rename_i cached found
    have next : v.checked = { v with readings := v.readings + 1 } := by
      rw [Visit.checked, found]
      rfl
    simp only [Visit.read]
    split
    · rename_i text kept
      obtain ⟨fresh, rfl⟩ := (fresh?_eq_some_iff found).mp kept
      exact ⟨none, next ▸ .reused fresh⟩
    · rename_i replaced
      have stale : ∀ token, ¬v.IsFresh ctx.clock token := by
        intro token fresh
        obtain rfl := Option.some.inj (found.symm.trans fresh.1)
        rw [(fresh?_eq_some_iff found).mpr ⟨fresh, rfl⟩] at replaced
        cases replaced
      exact next ▸ loads_requestToken stale now

theorem fetches_requestValue (c : Client) (ctx : Surroundings) (path token : String) (now : Nat)
    (v : Visit) :
    ∃ get, Fetches c ctx path token v get (c.requestValue ctx path token now v).result
      (c.requestValue ctx path token now v).state := by
  unfold Client.requestValue
  split
  · rename_i e built
    exact ⟨none, .unbuilt built⟩
  · rename_i request built
    exact ⟨some _, .answered built (Answers.send v.transport request)⟩

theorem attempted_attempt (c : Client) (ctx : Surroundings) (path : String) (now : Nat)
    (v : Visit) :
    ∃ k, Attempted c ctx path v k (c.attempt ctx path now v).result
      (c.attempt ctx path now v).state := by
  obtain ⟨put, loads⟩ := loads_obtainToken c ctx now v
  unfold Client.attempt
  dsimp only
  split
  · rename_i failure stopped
    rw [stopped] at loads
    exact ⟨_, .stopped loads⟩
  · rename_i token loaded
    rw [loaded] at loads
    obtain ⟨get, fetches⟩ := fetches_requestValue c ctx path token (c.obtainToken ctx now v).finish
      (c.obtainToken ctx now v).state
    dsimp only
    exact ⟨⟨put, get⟩, .asked loads fetches⟩

/-- An attempt that finds a fresh token asks for nothing but the value. -/
theorem fetches_of_fresh {v : Visit} {token : SessionToken} (fresh : v.IsFresh ctx.clock token)
    (path : String) (start : Nat) :
    ∃ get, Fetches c ctx path token.text v.checked get (c.attempt ctx path start v).result
      (c.attempt ctx path start v).state := by
  obtain ⟨k, attempted⟩ := attempted_attempt c ctx path start v
  generalize (c.attempt ctx path start v).result = r, (c.attempt ctx path start v).state = w
    at attempted ⊢
  cases attempted with
  | stopped loads =>
    cases loads with
    | unbuilt stale | refused stale | overflowed stale => exact absurd fresh (stale token)
  | @asked _ get _ _ _ _ loads fetches =>
    cases loads with
    | reused own =>
      cases own.1.symm.trans fresh.1
      exact ⟨get, fetches⟩
    | renewed stale => exact absurd fresh (stale token)

/-! ### What an attempt sends -/

namespace Loads

variable {v w : Visit} {put : Option Turn} {r : Except Failure String}

theorem sent (loads : Loads c ctx v put r w) : Answers v.transport put.toList w.transport := by
  cases loads with
  | reused | unbuilt => rw [Visit.transport_checked]; rfl
  | refused _ _ sent | overflowed _ _ sent | renewed _ _ sent => exact sent

theorem isSome_put_iff (loads : Loads c ctx v put r w)
    (valid : ∃ uri,
      Uri.parse? (Utf8.encode (tokenUrl (c.endpointText ctx.environment))) = .ok uri) :
    put.isSome = true ↔ ∀ token, ¬v.IsFresh ctx.clock token := by
  cases loads with
  | reused fresh => exact ⟨nofun, fun stale => absurd fresh (stale _)⟩
  | unbuilt _ failed =>
    obtain ⟨request, built⟩ := exists_tokenRequest c.ttl valid
    rw [built] at failed
    cases failed
  | refused stale | overflowed stale | renewed stale => exact ⟨fun _ => stale, fun _ => rfl⟩

theorem built (loads : Loads c ctx v put r w) :
    ∀ turn ∈ put, tokenRequest (c.endpointText ctx.environment) c.ttl = .ok turn.request := by
  rintro turn ⟨⟩
  cases loads with
  | refused _ built | overflowed _ built | renewed _ built => exact built

theorem text {text : String} (loads : Loads c ctx v put (.ok text) w) :
    put = none ∧ (∃ token, v.IsFresh ctx.clock token ∧ token.text = text) ∨
      ∃ turn, put = some turn ∧ turn.outcome.Brings text := by
  cases loads with
  | reused fresh => exact .inl ⟨rfl, _, fresh, rfl⟩
  | renewed _ _ _ brings => exact .inr ⟨_, rfl, brings⟩

theorem brings {text : String} (loads : Loads c ctx v put (.ok text) w) :
    ∀ turn ∈ put, ∃ text, turn.outcome.Brings text := by
  rintro turn ⟨⟩
  cases loads with
  | renewed _ _ _ brings => exact ⟨text, brings⟩

theorem token_found {token : SessionToken} (loads : Loads c ctx v put r w)
    (cached : w.token = some token) :
    v.token = some token ∨ ∃ turn, put = some turn ∧ turn.outcome.Brings token.text := by
  cases loads with
  | reused | unbuilt | refused | overflowed => exact .inl (v.token_checked.symm.trans cached)
  | renewed _ _ _ brings =>
    cases cached
    exact .inr ⟨_, rfl, brings⟩

theorem readings_le (loads : Loads c ctx v put r w) : v.readings ≤ w.readings := by
  cases loads with
  | reused | unbuilt | refused => exact v.readings_le_checked
  | overflowed | renewed => exact Nat.le_succ_of_le v.readings_le_checked

end Loads

namespace Fetches

variable {v w : Visit} {path token : String} {get : Option Turn} {r : Except Failure String}

theorem sent (fetches : Fetches c ctx path token v get r w) :
    Answers v.transport get.toList w.transport := by
  cases fetches with
  | unbuilt => rfl
  | answered _ sent => exact sent

theorem built (fetches : Fetches c ctx path token v get r w) :
    ∀ turn ∈ get,
      valueRequest (c.endpointText ctx.environment) path token = .ok turn.request := by
  rintro turn ⟨⟩
  cases fetches with
  | answered built => exact built

/-- Only an answer that the token is not accepted empties the cache. -/
theorem kept (fetches : Fetches c ctx path token v get r w) :
    (∀ turn ∈ get, turn.outcome.HasStatus 401 → w.token = none) ∧
      ((∀ turn ∈ get, ¬turn.outcome.HasStatus 401) → w.token = v.token) := by
  cases fetches with
  | unbuilt => exact ⟨fun _ => nofun, fun _ => rfl⟩
  | @answered turn t built sent =>
    constructor
    · rintro _ ⟨⟩ unauthorized
      exact if_pos (isUnauthorized_iff.mpr unauthorized)
    · intro accepted
      exact if_neg fun unauthorized => accepted turn rfl (isUnauthorized_iff.mp unauthorized)

theorem token_found {cached : SessionToken} (fetches : Fetches c ctx path token v get r w)
    (left : w.token = some cached) : v.token = some cached := by
  cases fetches with
  | unbuilt => exact left
  | answered =>
    unfold keptToken at left
    split at left
    · cases left
    · exact left

end Fetches

theorem Attempted.sent {path : String} {v w : Visit} {k : Conversation}
    {r : Except Failure String} (attempted : Attempted c ctx path v k r w) :
    Answers v.transport k.turns w.transport := by
  cases attempted with
  | stopped loads => exact (loads.sent).append rfl
  | asked loads fetches => exact loads.sent.append fetches.sent

theorem Attempted.readings_le {path : String} {v w : Visit} {k : Conversation}
    {r : Except Failure String} (attempted : Attempted c ctx path v k r w) :
    v.readings ≤ w.readings := by
  cases attempted with
  | stopped loads => exact loads.readings_le
  | asked loads fetches => cases fetches <;> exact loads.readings_le

/-- A token that an attempt leaves was there before, or it has asked for it. -/
theorem Attempted.token_found {path : String} {v w : Visit} {k : Conversation}
    {r : Except Failure String} {token : SessionToken} (attempted : Attempted c ctx path v k r w)
    (cached : w.token = some token) :
    v.token = some token ∨ ∃ turn ∈ k.turns, turn.outcome.Brings token.text := by
  have asked {put get : Option Turn} : (∃ turn, put = some turn ∧ turn.outcome.Brings token.text) →
      ∃ turn ∈ (⟨put, get⟩ : Conversation).turns, turn.outcome.Brings token.text := by
    rintro ⟨turn, rfl, brings⟩
    exact ⟨turn, List.mem_cons_self, brings⟩
  cases attempted with
  | stopped loads => exact (loads.token_found cached).imp_right asked
  | asked loads fetches => exact (loads.token_found (fetches.token_found cached)).imp_right asked

/-! ### A client and its surroundings, for examples -/

/-- Its tokens last an hour, and its delays are not drawn. -/
def hourly : Client where
  endpoint := some "http://127.0.0.1:1338"
  disabled := false
  ttl := .ofNanosClamped 3600000000000
  policy := ⟨4, ⟨⟨1000000, by decide⟩, ⟨2000000, by decide⟩, false⟩, none, none⟩
  token := none

/-- Nothing in the environment, and a clock that stands still. -/
def calm (t : Instant) : Surroundings where
  environment := .empty
  clock _ := t
  limiterClock _ := t
  jitter _ d := d
  timer := timerEnd

def okay : Status := ⟨200, by decide⟩

def replies (answers : List (Status × String)) : Transport :=
  ⟨some (answers.map fun a => ⟨.ok ⟨a.1, .empty, Utf8.encode a.2⟩, .zero⟩), []⟩

end RequestSigning.Metadata
