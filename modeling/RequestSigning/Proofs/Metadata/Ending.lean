import RequestSigning.Proofs.Metadata.Attempt
import RequestSigning.Proofs.Time.Instant

/-!
# How an attempt ends

`Ends` tells from the last turn of an attempt what it returns: a text, an error that another attempt
could mend, or one that it could not.  `Attempted.ready`: the attempt behind one that is tried again
has something to ask for, as long as the clock is not set back.
-/

namespace RequestSigning.Metadata

open Http

def Turn.asksValue (turn : Turn) : Bool := turn.request.head.method = .get

namespace Conversation

/-- It asks for a token and then, with a token in hand, for the value. -/
structure IsProper (k : Conversation) : Prop where
  put : ∀ put ∈ k.put, put.request.head.method = .put
  get : ∀ get ∈ k.get, get.request.head.method = .get ∧
    ∀ put ∈ k.put, ∃ text, put.outcome.Brings text

theorem IsProper.not_asksValue {k : Conversation} (proper : k.IsProper) :
    ∀ put ∈ k.put, ¬put.asksValue := by
  intro put asked value
  exact absurd ((proper.put put asked).symm.trans (of_decide_eq_true value)) (by decide)

/-- It ends with an outcome that another attempt could mend. -/
def IsTransient (k : Conversation) : Prop :=
  ∃ turn, k.turns.getLast? = some turn ∧ turn.outcome.IsTransient

theorem getLast?_of_get {k : Conversation} {get : Turn} (asked : k.get = some get) :
    k.turns.getLast? = some get := by
  rw [turns, asked]
  exact List.getLast?_concat

theorem getLast?_of_put {k : Conversation} (unasked : k.get = none) : k.turns.getLast? = k.put := by
  rw [turns, unasked]
  cases k.put <;> rfl

end Conversation

/-- A request that cannot be built: the one for a token, or the one for the value with the token
that the attempt has found or has asked for. -/
inductive Blocked (c : Client) (ctx : Surroundings) (path : String) (found : Option SessionToken)
    (k : Conversation) : Prop
  | token {e : Error} (unasked : k.put = none)
      (failed : tokenRequest (c.endpointText ctx.environment) c.ttl = .error e)
  | value {text : String} {e : Error}
      (failed : valueRequest (c.endpointText ctx.environment) path text = .error e)
      (inHand : k.put = none ∧ (∃ token, found = some token ∧ token.text = text) ∨
        ∃ put, k.put = some put ∧ put.outcome.Brings text)

/-- How an attempt with such turns can end. -/
inductive Ends (c : Client) (ctx : Surroundings) (path : String) (found : Option SessionToken)
    (k : Conversation) : Except Failure String → Prop
  | read {get : Turn} {text : String} (asked : k.get = some get)
      (brings : get.outcome.Brings text) : Ends c ctx path found k (.ok text)
  | rejected {turn : Turn} {e : Error} (last : k.turns.getLast? = some turn)
      (silent : ∀ text, ¬turn.outcome.Brings text) (rejects : turn.outcome.Rejects e) :
      Ends c ctx path found k (.error (.error e))
  | unbuilt {e : Error} (unasked : k.get = none)
      (put : ∀ put ∈ k.put, ∃ text, put.outcome.Brings text) (blocked : Blocked c ctx path found k)
      (kind : e.kind = .requestInvalid) (final : e.retryable = false) :
      Ends c ctx path found k (.error (.error e))
  | overflowed {put : Turn} {text : String} {i : Nat} (unasked : k.get = none)
      (asked : k.put = some put) (brings : put.outcome.Brings text)
      (refresh : refreshTime? (ctx.clock i) c.ttl = none) :
      Ends c ctx path found k (.error .timeOverflow)

variable {c : Client} {ctx : Surroundings} {path : String} {found : Option SessionToken}
  {u v w : Visit} {k : Conversation} {r : Except Failure String}

theorem Attempted.isProper (attempted : Attempted c ctx path v k r w) : k.IsProper := by
  cases attempted with
  | stopped loads =>
    exact {
      put := fun put asked => (tokenRequest_ok (loads.built put asked)).1
      get := fun _ => nofun }
  | asked loads fetches =>
    exact {
      put := fun put asked => (tokenRequest_ok (loads.built put asked)).1
      get := fun get asked => ⟨(valueRequest_ok (fetches.built get asked)).1, loads.brings⟩ }

theorem Attempted.ends (attempted : Attempted c ctx path v k r w) :
    Ends c ctx path v.token k r := by
  cases attempted with
  | stopped loads =>
    cases loads with
    | unbuilt _ failed =>
      obtain ⟨kind, final⟩ := of_unwritable failed
      exact .unbuilt rfl (fun _ => nofun) (.token rfl failed) kind final
    | refused _ _ _ rejected =>
      exact .rejected rfl (not_brings_of_answer rejected) (.of_answer rejected)
    | overflowed _ _ _ brings refresh => exact .overflowed rfl rfl brings refresh
  | asked loads fetches =>
    cases fetches with
    | unbuilt failed =>
      obtain ⟨kind, final⟩ := of_unwritable failed
      refine .unbuilt rfl loads.brings (.value failed (loads.text.imp_left ?_)) kind final
      rintro ⟨unasked, token, fresh, text⟩
      exact ⟨unasked, token, fresh.1, text⟩
    | @answered get =>
      cases answered : answer .value get.outcome with
      | ok text => exact .read rfl (answer_eq_ok_iff.mp answered)
      | error e =>
        exact .rejected (Conversation.getLast?_of_get rfl) (not_brings_of_answer answered)
          (.of_answer answered)

/-- A token in hand and no request for the value: nothing that another attempt could mend. -/
theorem Conversation.not_isTransient (unasked : k.get = none)
    (put : ∀ put ∈ k.put, ∃ text, put.outcome.Brings text) : ¬k.IsTransient := by
  rintro ⟨turn, last, transient⟩
  obtain ⟨_, brings⟩ := put turn ((getLast?_of_put unasked).symm.trans last)
  exact brings.not_isTransient transient

namespace Ends

theorem retries_iff (ends : Ends c ctx path found k r) :
    (∃ e, r = .error (.error e) ∧ e.retryable = true) ↔ k.IsTransient := by
  cases ends with
  | read asked brings =>
    refine ⟨nofun, ?_⟩
    rintro ⟨_, last, transient⟩
    cases (Conversation.getLast?_of_get asked).symm.trans last
    exact absurd transient brings.not_isTransient
  | rejected last _ rejects =>
    rw [Conversation.IsTransient, last]
    constructor
    · rintro ⟨_, ⟨⟩, retryable⟩
      exact ⟨_, rfl, rejects.retryable.mp retryable⟩
    · rintro ⟨_, ⟨⟩, transient⟩
      exact ⟨_, rfl, rejects.retryable.mpr transient⟩
  | unbuilt unasked put _ _ final =>
    constructor
    · rintro ⟨_, ⟨⟩, retryable⟩
      rw [final] at retryable
      cases retryable
    · exact fun transient => absurd transient (Conversation.not_isTransient unasked put)
  | overflowed unasked asked brings =>
    refine ⟨nofun, fun transient => absurd transient (Conversation.not_isTransient unasked ?_)⟩
    intro put same
    cases asked.symm.trans same
    exact ⟨_, brings⟩

theorem eq_ok_iff (ends : Ends c ctx path found k r) (proper : k.IsProper) {text : String} :
    r = .ok text ↔
      ∃ turn, k.turns.getLast? = some turn ∧ turn.asksValue ∧ turn.outcome.Brings text := by
  have unread : k.get = none →
      ¬∃ turn, k.turns.getLast? = some turn ∧ turn.asksValue ∧ turn.outcome.Brings text := by
    rintro unasked ⟨turn, last, value, _⟩
    have put := proper.not_asksValue turn ((Conversation.getLast?_of_put unasked).symm.trans last)
    exact put value
  cases ends with
  | @read get _ asked brings =>
    have last := Conversation.getLast?_of_get asked
    constructor
    · rintro ⟨⟩
      exact ⟨get, last, decide_eq_true (proper.get get asked).1, brings⟩
    · rintro ⟨_, last', _, brings'⟩
      cases last.symm.trans last'
      rw [brings.unique brings']
  | rejected last silent =>
    refine ⟨nofun, ?_⟩
    rintro ⟨_, last', _, brings⟩
    cases last.symm.trans last'
    exact absurd brings (silent text)
  | unbuilt unasked | overflowed unasked => exact ⟨nofun, fun read => absurd read (unread unasked)⟩

theorem kind {e : Error} (ends : Ends c ctx path found k (.error (.error e))) :
    (e.kind = .throttled ↔ ∃ turn, k.turns.getLast? = some turn ∧ turn.outcome.HasStatus 429) ∧
      ((∃ turn, k.turns.getLast? = some turn ∧ turn.outcome.IsLost) → e.kind = .unexpected) := by
  cases ends with
  | rejected last _ rejects =>
    rw [last]
    constructor
    · rw [rejects.throttled]
      refine ⟨fun throttled => ⟨_, rfl, throttled⟩, ?_⟩
      rintro ⟨_, ⟨⟩, throttled⟩
      exact throttled
    · rintro ⟨_, ⟨⟩, lost⟩
      exact rejects.lost lost
  | unbuilt unasked put _ kind =>
    have final := Conversation.not_isTransient unasked put
    rw [kind]
    refine ⟨⟨nofun, ?_⟩, ?_⟩
    · rintro ⟨turn, last, throttled⟩
      exact absurd ⟨turn, last, .inr (.inl throttled)⟩ final
    · rintro ⟨turn, last, lost⟩
      exact absurd ⟨turn, last, .inl lost⟩ final

/-- Whoever has a token and does not ask for the value could not build the request, or could not
tell when the token is to be replaced. -/
theorem of_unasked (ends : Ends c ctx path found k r) (unasked : k.get = none)
    (put : ∀ put ∈ k.put, ∃ text, put.outcome.Brings text) :
    r = .error .timeOverflow ∨ ∃ e, r = .error (.error e) ∧ e.kind = .requestInvalid := by
  cases ends with
  | read asked =>
    rw [unasked] at asked
    cases asked
  | @rejected turn _ last silent =>
    obtain ⟨text, brings⟩ := put turn ((Conversation.getLast?_of_put unasked).symm.trans last)
    exact absurd brings (silent text)
  | unbuilt _ _ _ kind => exact .inr ⟨_, rfl, kind⟩
  | overflowed => exact .inl rfl

theorem blocked {e : Error} (ends : Ends c ctx path found k (.error (.error e)))
    (kind : e.kind = .requestInvalid) : k.get = none ∧ Blocked c ctx path found k := by
  cases ends with
  | rejected _ _ rejects => exact absurd kind rejects.sent
  | unbuilt unasked _ blocked => exact ⟨unasked, blocked⟩

theorem overflow (ends : Ends c ctx path found k (.error .timeOverflow)) :
    k.get = none ∧ (∃ put text, k.put = some put ∧ put.outcome.Brings text) ∧
      ∃ i, refreshTime? (ctx.clock i) c.ttl = none := by
  cases ends with
  | overflowed unasked asked brings refresh =>
    exact ⟨unasked, ⟨_, _, asked, brings⟩, _, refresh⟩

end Ends

/-! ### An attempt behind another one -/

/-- What an attempt that starts here asks for first can be asked for. -/
structure Ready (c : Client) (ctx : Surroundings) (path : String) (v : Visit) : Prop where
  token : (∃ token, v.IsFresh ctx.clock token) ∨
    ∃ r, tokenRequest (c.endpointText ctx.environment) c.ttl = .ok r
  value : ∀ token, v.IsFresh ctx.clock token →
    ∃ r, valueRequest (c.endpointText ctx.environment) path token.text = .ok r

theorem Ready.turns_ne_nil (ready : Ready c ctx path v) (attempted : Attempted c ctx path v k r w) :
    k.turns ≠ [] := by
  cases attempted with
  | stopped loads =>
    cases loads with
    | unbuilt stale failed =>
      obtain ⟨token, fresh⟩ | ⟨_, built⟩ := ready.token
      · exact absurd fresh (stale token)
      · rw [built] at failed
        cases failed
    | refused | overflowed => exact List.cons_ne_nil _ _
  | asked loads fetches =>
    cases loads with
    | reused fresh =>
      obtain ⟨_, built⟩ := ready.value _ fresh
      cases fetches with
      | unbuilt failed =>
        rw [built] at failed
        cases failed
      | answered => exact List.cons_ne_nil _ _
    | renewed => exact List.cons_ne_nil _ _

theorem Visit.IsFresh.of_later {clock : Nat → Instant} {token : SessionToken}
    (fresh : v.IsFresh clock token) (same : v.token = u.token)
    (forward : (clock v.readings).before (clock u.readings) = false) : u.IsFresh clock token :=
  ⟨same.symm.trans fresh.1, Instant.before_of_not_before forward fresh.2⟩

/-- Unless the clock is set back, whoever tries again finds what could be asked for before.  The
token that was used may have become stale, and then it takes a new one. -/
theorem Attempted.ready (attempted : Attempted c ctx path u k r v) (transient : k.IsTransient)
    (forward : (ctx.clock v.readings).before (ctx.clock u.readings) = false)
    (renewable : ctx.clock v.readings = ctx.clock u.readings ∨
      ∃ r, tokenRequest (c.endpointText ctx.environment) c.ttl = .ok r) : Ready c ctx path v := by
  cases attempted with
  | stopped loads =>
    cases loads with
    | unbuilt => exact absurd transient (Conversation.not_isTransient rfl fun _ => nofun)
    | overflowed _ _ _ brings =>
      refine absurd transient (Conversation.not_isTransient rfl ?_)
      rintro _ ⟨⟩
      exact ⟨_, brings⟩
    | refused stale built =>
      refine ⟨.inr ⟨_, built⟩, fun token fresh => absurd ?_ (stale token)⟩
      exact fresh.of_later u.token_checked forward
  | @asked put _ text between _ _ loads fetches =>
    have kept := fetches.kept.2
    cases fetches with
    | unbuilt => exact absurd transient (Conversation.not_isTransient rfl loads.brings)
    | @answered get t built sent =>
      -- The value was refused for now but not with 401, so the token of this attempt stays cached.
      have same : keptToken between.token get.outcome = between.token := by
        obtain ⟨_, last, mended⟩ := transient
        cases (Conversation.getLast?_of_get rfl).symm.trans last
        exact kept (by rintro _ ⟨⟩; exact mended.not_unauthorized)
      cases loads with
      | @reused token fresh =>
        have cached := same.trans u.token_checked
        refine ⟨renewable.imp_left fun still => ⟨token, ?_⟩, fun other found => ?_⟩
        · exact ⟨cached.trans fresh.1, still.symm ▸ fresh.2⟩
        · cases (cached.trans fresh.1).symm.trans found.1
          exact ⟨_, built⟩
      | renewed _ asked =>
        refine ⟨.inr ⟨_, asked⟩, fun other found => ?_⟩
        cases same.symm.trans found.1
        exact ⟨_, built⟩

end RequestSigning.Metadata
