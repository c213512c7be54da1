import Mathlib.Data.List.DropRight
import RequestSigning.Metadata.Callers
import RequestSigning.Proofs.Metadata.Attempt

/-!
# What callers do to each other's tokens

A caller that nobody disturbs makes an attempt of the client: `Shared.run_attempt`.  Among others,
the token that it has loaded stays cached until one of them stores or drops one:
`Shared.token_of_carries`.  An answer that its token is not accepted empties the cache all the same:
`Shared.drops_other_iff`, and `Shared.stored_token_dropped` for a run where a good token is lost.
-/

namespace RequestSigning.Metadata

open Http

/-- The token that is stored, if an answer brings one. -/
def received? (ttl : Duration) (outcome : Outcome) (time : Instant) : Option SessionToken :=
  match answer .token outcome, refreshTime? time ttl with
  | .ok text, some refreshAt => some ⟨text, refreshAt⟩
  | _, _ => none

/-- What an event puts into the cache, if it edits it at all. -/
def Event.edit? (ttl : Duration) : Event → Option (Option SessionToken)
  | .renewed outcome time => (received? ttl outcome time).map some
  | .answered outcome => if isUnauthorized outcome then some none else none
  | .load _ | .ask _ => none

def Event.isAsk : Event → Bool
  | .ask _ => true
  | _ => false

def Event.outcome? : Event → Option Outcome
  | .renewed outcome _ | .answered outcome => some outcome
  | .load _ | .ask _ => none

def lastEdit? (ttl : Duration) (moves : List Move) : Option (Option SessionToken) :=
  (moves.filterMap (·.event.edit? ttl)).getLast?

/-- The moves since a caller had its token: those of the others, and its own request. -/
def sinceLoaded (i : Nat) (moves : List Move) : List Move :=
  moves.rtakeWhile fun m => m.caller ≠ i ∨ m.event.isAsk

theorem lastEdit?_concat (ttl : Duration) (moves : List Move) (m : Move) :
    lastEdit? ttl (moves ++ [m]) = (m.event.edit? ttl).or (lastEdit? ttl moves) := by
  unfold lastEdit?
  rw [List.filterMap_append]
  cases edit : m.event.edit? ttl with
  | none => simp [edit]
  | some edited => simp [edit]

theorem cached_of_fresh? {cached : Option SessionToken} {now : Instant} {text : String}
    (fresh : fresh? cached now = some text) : ∃ token, cached = some token ∧ token.text = text := by
  obtain ⟨token, kept, rfl⟩ := Option.map_eq_some_iff.mp fresh
  exact ⟨token, (Option.filter_eq_some_iff.mp kept).1, rfl⟩

section

variable {c : Client} {env : Nat → Environment}

/-! ### One step -/

namespace Caller

def token? : Caller → Option String
  | .loaded token | .asking token => some token
  | _ => none

variable {cached after : Option SessionToken} {caller moved : Caller} {e : Event}
  {env : Environment}

/-- Whoever an answer is for, it edits the cache in the same way. -/
theorem edited (went : caller.next c env cached e = some (after, moved)) :
    after = (e.edit? c.ttl).getD cached := by
  unfold Caller.next at went
  split at went
  · split at went <;> cases went <;> rfl
  · split at went <;> cases went <;> simp [Event.edit?, received?, *]
  · split at went <;> cases went <;> rfl
  · cases went
    simp only [keptToken, Event.edit?]
    split <;> rfl
  · cases went

/-- A caller that has a token to use had it already, or it is the cached one. -/
theorem of_token? {text : String} (went : caller.next c env cached e = some (after, moved))
    (carries : moved.token? = some text) :
    e.isAsk = true ∧ caller.token? = some text ∨
      e.isAsk = false ∧ ∃ token, after = some token ∧ token.text = text := by
  unfold Caller.next at went
  split at went
  · split at went <;> cases went <;> cases carries
    rename_i fresh
    exact .inr ⟨rfl, cached_of_fresh? fresh⟩
  · split at went <;> cases went <;> cases carries
    exact .inr ⟨rfl, _, rfl, rfl⟩
  · split at went <;> cases went <;> cases carries
    exact .inl ⟨rfl, rfl⟩
  · cases went
    cases carries
  · cases went

end Caller

namespace Shared

variable (s : Shared) (i : Nat) (cached after : Option SessionToken) (caller moved : Caller)

theorem callers_become : (s.become i cached caller).callers i = caller := if_pos rfl

theorem callers_become_of_ne {j : Nat} (other : j ≠ i) :
    (s.become i cached caller).callers j = s.callers j := if_neg other

theorem become_self : s.become i s.token (s.callers i) = s := by
  have same : (fun j => if j = i then s.callers i else s.callers j) = s.callers := by
    funext j
    split
    · subst j
      rfl
    · rfl
  rw [become, same]

theorem become_become :
    (s.become i cached caller).become i after moved = s.become i after moved := by
  simp only [become, mk.injEq, true_and]
  funext j
  split <;> rfl

end Shared

theorem Shared.of_step {s t : Shared} {m : Move} (stepped : s.step c env m = some t) :
    ∃ after moved,
      (s.callers m.caller).next c (env m.caller) s.token m.event = some (after, moved) ∧
        t = s.become m.caller after moved := by
  obtain ⟨⟨after, moved⟩, went, became⟩ := Option.bind_eq_some_iff.mp stepped
  exact ⟨after, moved, went, (Option.some.inj became).symm⟩

theorem Shared.run_concat {s u : Shared} {moves : List Move} {m : Move} :
    s.run c env (moves ++ [m]) = some u ↔
      ∃ t, s.run c env moves = some t ∧ t.step c env m = some u := by
  simp [Shared.run, List.foldlM_append, Option.bind_eq_some_iff]

/-- Where a caller has a token to use, the cache held it when it was loaded, and holds what the
others have made of it since. -/
theorem Shared.token_of_carries {cached : Option SessionToken} {moves : List Move} {s : Shared}
    {i : Nat} {text : String} (ran : (Shared.start cached).run c env moves = some s)
    (carries : (s.callers i).token? = some text) :
    ∃ loaded : SessionToken, loaded.text = text ∧
      s.token = (lastEdit? c.ttl (sinceLoaded i moves)).getD (some loaded) := by
  induction moves using List.reverseRecOn generalizing s with
  | nil =>
    cases ran
    cases carries
  | append_singleton moves m ih =>
    -- The caller has loaded its token with this move, or it had it before and `ih` applies.
    obtain ⟨u, earlier, stepped⟩ := Shared.run_concat.mp ran
    obtain ⟨after, moved, went, rfl⟩ := Shared.of_step stepped
    have edit := Caller.edited went
    -- As long as the caller itself does nothing but ask, the window grows with the run.
    have grows (carried : (u.callers i).token? = some text)
        (kept : m.caller ≠ i ∨ m.event.isAsk = true) :
        ∃ loaded : SessionToken, loaded.text = text ∧
          after = (lastEdit? c.ttl (sinceLoaded i (moves ++ [m]))).getD (some loaded) := by
      obtain ⟨loaded, same, token⟩ := ih earlier carried
      refine ⟨loaded, same, ?_⟩
      rw [sinceLoaded, List.rtakeWhile_concat_pos _ _ _ (by simpa using kept), lastEdit?_concat,
        edit, token]
      cases m.event.edit? c.ttl <;> rfl
    by_cases own : m.caller = i
    · rw [← own, u.callers_become] at carries
      obtain ⟨ask, carried⟩ | ⟨load, token, cached, same⟩ := Caller.of_token? went carries
      · exact grows (own ▸ carried) (.inr ask)
      · refine ⟨token, same, ?_⟩
        rw [sinceLoaded, List.rtakeWhile_concat_neg _ _ _ (by simp [own, load])]
        exact cached
    · rw [u.callers_become_of_ne _ _ _ (Ne.symm own)] at carries
      exact grows carries (.inl own)

/-- An answer drops the cached token where it says that its token is not accepted, and only there.
It drops another token than its own exactly where the last edit of the cache, since the caller had
its token, has stored another one. -/
theorem Shared.drops_other_iff {cached : Option SessionToken} {moves : List Move} {s : Shared}
    {i : Nat} {text : String} (ran : (Shared.start cached).run c env moves = some s)
    (asking : s.callers i = .asking text) (outcome : Outcome) :
    ∃ t, s.step c env ⟨i, .answered outcome⟩ = some t ∧
      (outcome.HasStatus 401 → t.token = none) ∧ (¬outcome.HasStatus 401 → t.token = s.token) ∧
      ((∃ other, s.token = some other ∧ other.text ≠ text) ↔
        ∃ other, lastEdit? c.ttl (sinceLoaded i moves) = some (some other) ∧
          other.text ≠ text) := by
  obtain ⟨loaded, same, token⟩ := Shared.token_of_carries ran (by rw [asking]; rfl)
  refine ⟨s.become i (keptToken s.token outcome)
    (.idle (some ((answer .value outcome).mapError .error))), ?_, ?_, ?_, ?_⟩
  · simp only [Shared.step, asking, Caller.next]
    rfl
  · intro unauthorized
    exact if_pos (isUnauthorized_iff.mpr unauthorized)
  · intro accepted
    exact if_neg fun unauthorized => accepted (isUnauthorized_iff.mp unauthorized)
  · rw [token]
    cases lastEdit? c.ttl (sinceLoaded i moves) with
    | none =>
      constructor
      · rintro ⟨_, ⟨⟩, other⟩
        exact absurd same other
      · rintro ⟨_, ⟨⟩, _⟩
    | some edited => exact exists_congr fun other => and_congr_left' Option.some_inj.symm

/-- Two callers find no token and ask for one.  The second has its token stored while the first
waits for the answer to its request. -/
def overlapping : List Move :=
  [⟨0, .load .epoch⟩, ⟨1, .load .epoch⟩,
    ⟨0, .renewed (.ok ⟨okay, .empty, Utf8.encode "old"⟩) .epoch⟩, ⟨0, .ask "x"⟩,
    ⟨1, .renewed (.ok ⟨okay, .empty, Utf8.encode "new"⟩) .epoch⟩]

def bare (_ : Nat) : Environment := .empty

def unauthorized : Outcome := .ok ⟨⟨401, by decide⟩, .empty, []⟩

/-- The second caller loses the token of its own request, and no other. -/
theorem Shared.drops_other_iff_latest :
    ∃ s t, (Shared.start none).run hourly bare (overlapping ++ [⟨1, .ask "x"⟩]) = some s ∧
      s.callers 1 = .asking "new" ∧ s.step hourly bare ⟨1, .answered unauthorized⟩ = some t ∧
      t.token = none ∧ ∀ other, s.token = some other → other.text = "new" := by
  obtain ⟨s, ran, asking⟩ : ∃ s, (Shared.start none).run hourly bare
      (overlapping ++ [⟨1, .ask "x"⟩]) = some s ∧ s.callers 1 = .asking "new" := ⟨_, rfl, rfl⟩
  obtain ⟨t, stepped, drops, _, other⟩ := Shared.drops_other_iff ran asking unauthorized
  have untouched :
      lastEdit? hourly.ttl (sinceLoaded 1 (overlapping ++ [⟨1, .ask "x"⟩])) = none := rfl
  refine ⟨s, t, ran, asking, stepped, drops ⟨_, rfl, rfl⟩, fun token cached => ?_⟩
  by_contra differs
  obtain ⟨_, edited, _⟩ := other.mp ⟨token, cached, differs⟩
  cases untouched.symm.trans edited

theorem Shared.stored_token_dropped :
    ∃ s t newer, (Shared.start none).run hourly bare overlapping = some s ∧
      s.callers 0 = .asking "old" ∧ s.token = some newer ∧ newer.text = "new" ∧
      s.step hourly bare ⟨0, .answered unauthorized⟩ = some t ∧ t.token = none :=
  ⟨_, _, ⟨"new", ⟨3000, 0, by decide⟩⟩, rfl, rfl, rfl, rfl, rfl, rfl⟩

/-! ### A caller alone -/

theorem fresh?_eq_none {v : Visit} {clock : Nat → Instant}
    (stale : ∀ token, ¬v.IsFresh clock token) : fresh? v.token (clock v.readings) = none := by
  cases cached : v.token with
  | none => rfl
  | some token =>
    refine Option.eq_none_iff_forall_ne_some.mpr fun text kept => ?_
    exact stale token ((fresh?_eq_some_iff cached).mp kept).1

namespace Caller

def play (c : Client) (env : Environment) (q : Option SessionToken × Caller)
    (events : List Event) : Option (Option SessionToken × Caller) :=
  events.foldlM (fun q e => q.2.next c env q.1 e) q

def afterLoading : Except Failure String → Caller
  | .ok text => .loaded text
  | .error failure => .idle (some (.error failure))

end Caller

variable {ctx : Surroundings} {v w : Visit} {r : Except Failure String}

theorem Loads.play {put : Option Turn} (loads : Loads c ctx v put r w)
    (last : Option (Except Failure String)) :
    ∃ events : List Event, events.filterMap (·.outcome?) = put.toList.map (·.outcome) ∧
      Caller.play c ctx.environment (v.token, .idle last) events =
        some (w.token, .afterLoading r) := by
  cases loads with
  | @reused token fresh =>
    refine ⟨[.load (ctx.clock v.readings)], rfl, ?_⟩
    have kept := (fresh?_eq_some_iff fresh.1).mpr ⟨fresh, rfl⟩
    simp [Caller.play, Caller.next, Caller.afterLoading, fresh.1, kept]
  | unbuilt stale built =>
    refine ⟨[.load (ctx.clock v.readings)], rfl, ?_⟩
    simp [Caller.play, Caller.next, Caller.afterLoading, fresh?_eq_none stale, built]
  | @refused turn t e stale built sent rejected =>
    refine ⟨[.load (ctx.clock v.readings), .renewed turn.outcome .epoch], rfl, ?_⟩
    simp [Caller.play, Caller.next, Caller.afterLoading, fresh?_eq_none stale, built, rejected]
  | @overflowed turn t text stale built sent brings refresh
  | @renewed turn t text refreshAt stale built sent brings refresh =>
    refine ⟨[.load (ctx.clock v.readings),
      .renewed turn.outcome (ctx.clock v.checked.readings)], rfl, ?_⟩
    simp [Caller.play, Caller.next, Caller.afterLoading, fresh?_eq_none stale, built,
      answer_eq_ok_iff.mpr brings, refresh]

theorem Fetches.play {path token : String} {get : Option Turn}
    (fetches : Fetches c ctx path token v get r w) :
    ∃ events : List Event, events.filterMap (·.outcome?) = get.toList.map (·.outcome) ∧
      Caller.play c ctx.environment (v.token, .loaded token) events =
        some (w.token, .idle (some r)) := by
  cases fetches with
  | unbuilt built => exact ⟨[.ask path], rfl, by simp [Caller.play, Caller.next, built]⟩
  | @answered turn t built sent =>
    exact ⟨[.ask path, .answered turn.outcome], rfl, by simp [Caller.play, Caller.next, built]⟩

theorem Attempted.play {path : String} {k : Conversation} (attempted : Attempted c ctx path v k r w)
    (last : Option (Except Failure String)) :
    ∃ events : List Event, events.filterMap (·.outcome?) = k.turns.map (·.outcome) ∧
      Caller.play c ctx.environment (v.token, .idle last) events =
        some (w.token, .idle (some r)) := by
  cases attempted with
  | stopped loads =>
    obtain ⟨events, outcomes, played⟩ := loads.play last
    exact ⟨events, by rw [outcomes, Conversation.turns]; simp, played⟩
  | asked loads fetches =>
    obtain ⟨first, put, loaded⟩ := loads.play last
    obtain ⟨second, get, asked⟩ := fetches.play
    refine ⟨first ++ second, ?_, ?_⟩
    · rw [List.filterMap_append, put, get, Conversation.turns, List.map_append]
    · rw [Caller.play, List.foldlM_append]
      exact Option.bind_eq_some_iff.mpr ⟨_, loaded, asked⟩

theorem Shared.run_alone {i : Nat} {s : Shared} {events : List Event}
    {after : Option SessionToken} {moved : Caller}
    (played : Caller.play c (env i) (s.token, s.callers i) events = some (after, moved)) :
    s.run c env (events.map (Move.mk i)) = some (s.become i after moved) := by
  induction events generalizing s with
  | nil =>
    cases played
    exact congrArg some (s.become_self i).symm
  | cons e later ih =>
    obtain ⟨⟨between, caller⟩, first, rest⟩ := Option.bind_eq_some_iff.mp played
    have stepped : s.step c env ⟨i, e⟩ = some (s.become i between caller) :=
      Option.bind_eq_some_iff.mpr ⟨_, first, rfl⟩
    rw [← s.callers_become i between caller] at rest
    have ran := @ih (s.become i between caller) rest
    rw [Shared.become_become] at ran
    exact Option.bind_eq_some_iff.mpr ⟨_, stepped, ran⟩

/-- A caller that nobody disturbs does what an attempt does, with the same answers. -/
theorem Shared.run_attempt (c : Client) (ctx : Surroundings) (path : String) (now : Nat) (v : Visit)
    {s : Shared} {i : Nat} {last : Option (Except Failure String)} (own : env i = ctx.environment)
    (token : s.token = v.token) (idle : s.callers i = .idle last) :
    let made := c.attempt ctx path now v
    ∃ k, Attempted c ctx path v k made.result made.state ∧
      ∃ events : List Event, events.filterMap (·.outcome?) = k.turns.map (·.outcome) ∧
        s.run c env (events.map (Move.mk i)) =
          some (s.become i made.state.token (.idle (some made.result))) := by
  obtain ⟨k, attempted⟩ := attempted_attempt c ctx path now v
  obtain ⟨events, outcomes, played⟩ := attempted.play last
  rw [← token, ← idle, ← own] at played
  exact ⟨k, attempted, events, outcomes, Shared.run_alone played⟩

end

end RequestSigning.Metadata
