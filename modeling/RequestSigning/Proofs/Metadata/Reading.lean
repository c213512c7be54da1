import RequestSigning.Proofs.Metadata.Ending
import RequestSigning.Proofs.Retry.Calls

/-!
# What a call comes to

`Settles` tells from the turns of a call when it goes on, how often, and what it returns.
`get_settles`: every call without a timeout does so.
-/

namespace RequestSigning.Metadata

open Http

def turnsOf (ks : List Conversation) : List Turn := ks.flatMap Conversation.turns

@[simp] theorem turnsOf_cons (k : Conversation) (ks : List Conversation) :
    turnsOf (k :: ks) = k.turns ++ turnsOf ks := List.flatMap_cons

theorem turnsOf_concat (ks : List Conversation) (k : Conversation) :
    turnsOf (ks ++ [k]) = turnsOf ks ++ k.turns := by
  rw [turnsOf, List.flatMap_append, List.flatMap_singleton, turnsOf]

variable {c : Client} {ctx : Surroundings} {path : String} {v w : Visit} {k : Conversation}
  {r : Except Failure String}

/-- The clock stands still, or it never goes back and a new token can be asked for when one becomes
stale. -/
inductive Forward (c : Client) (ctx : Surroundings) : Prop
  | still (same : ∀ i j, ctx.clock i = ctx.clock j)
  | onward (never_back : ∀ i j, i ≤ j → (ctx.clock j).before (ctx.clock i) = false)
      (renewable : ∃ r, tokenRequest (c.endpointText ctx.environment) c.ttl = .ok r)

theorem Forward.ready (forward : Forward c ctx) (attempted : Attempted c ctx path v k r w)
    (transient : k.IsTransient) : Ready c ctx path w := by
  cases forward with
  | still same =>
    have still := same w.readings v.readings
    exact attempted.ready transient (still ▸ Instant.not_before_self _) (.inl still)
  | onward never_back renewable =>
    exact attempted.ready transient (never_back _ _ attempted.readings_le) (.inr renewable)

/-- Attempts that are all tried again: their turns, and what the next one finds. -/
theorem exists_retried {made : List (Nat × Visit)}
    (calls : Calls (c.attempt ctx path) v made w)
    (retried : ∀ a ∈ made, (c.attempt ctx path a.1 a.2).Retries) :
    ∃ ks : List Conversation, ks.length = made.length ∧
      Answers v.transport (turnsOf ks) w.transport ∧
      (∀ k ∈ ks, k.IsProper ∧ k.IsTransient) ∧
      (∀ token, w.token = some token →
        v.token = some token ∨ ∃ turn ∈ turnsOf ks, turn.outcome.Brings token.text) ∧
      (Forward c ctx → ks = [] ∧ w = v ∨ Ready c ctx path w) := by
  -- Only the attempt right before `w` tells what `w` is like, so the induction carries `w = v`.
  induction calls with
  | nil v =>
    exact ⟨[], rfl, rfl, List.forall_mem_nil _, fun _ => .inl, fun _ => .inl ⟨rfl, rfl⟩⟩
  | @cons start v w later rest ih =>
    obtain ⟨again, retried⟩ := List.forall_mem_cons.mp retried
    obtain ⟨k, attempted⟩ := attempted_attempt c ctx path start v
    have transient : k.IsTransient := attempted.ends.retries_iff.mp again
    obtain ⟨ks, length, sent, each, known, ready⟩ := ih retried
    refine ⟨k :: ks, congrArg Nat.succ length, ?_,
      List.forall_mem_cons.mpr ⟨⟨attempted.isProper, transient⟩, each⟩, fun token cached => ?_,
      fun forward => .inr ?_⟩
    · rw [turnsOf_cons]
      exact attempted.sent.append sent
    · rw [turnsOf_cons]
      obtain before | ⟨turn, member, brings⟩ := known token cached
      · obtain found | ⟨turn, member, brings⟩ := attempted.token_found before
        · exact .inl found
        · exact .inr ⟨turn, List.mem_append_left _ member, brings⟩
      · exact .inr ⟨turn, List.mem_append_right _ member, brings⟩
    · obtain ⟨_, rfl⟩ | ready := ready forward
      · exact forward.ready attempted transient
      · exact ready

/-! ### The whole call -/

def lastTurn? (earlier : List Conversation) (last : Conversation) : Option Turn :=
  (turnsOf (earlier ++ [last])).getLast?

/-- What a call comes to, from the turns of the attempts that it tries again and of the last one.
An error tells the last outcome of the last attempt, which is the last one of all unless that
attempt cannot build its first request.  Behind an attempt that was tried again this happens only
where the clock is set back, or moves while no token can be asked for; the error tells of it. -/
structure Settles (c : Client) (ctx : Surroundings) (path : String) (earlier : List Conversation)
    (last : Conversation) (result : Except Failure String) : Prop where
  proper : ∀ k ∈ earlier ++ [last], k.IsProper
  retried : ∀ k ∈ earlier, k.IsTransient
  exhausted : last.IsTransient → earlier.length + 1 = max c.policy.maxAttempts 1
  attempts : earlier.length + 1 ≤ max c.policy.maxAttempts 1
  values : (turnsOf (earlier ++ [last])).countP Turn.asksValue ≤ max c.policy.maxAttempts 1
  requests : (turnsOf (earlier ++ [last])).length ≤ 2 * max c.policy.maxAttempts 1
  ok : ∀ text, result = .ok text ↔
    ∃ turn, lastTurn? earlier last = some turn ∧ turn.asksValue ∧ turn.outcome.Brings text
  last_error : ∀ e, result = .error (.error e) →
    (e.kind = .throttled ↔
      ∃ turn, last.turns.getLast? = some turn ∧ turn.outcome.HasStatus 429) ∧
    ((∃ turn, last.turns.getLast? = some turn ∧ turn.outcome.IsLost) → e.kind = .unexpected)
  error : ∀ e, result = .error (.error e) → Forward c ctx ∨ e.kind ≠ .requestInvalid →
    (e.kind = .throttled ↔
      ∃ turn, lastTurn? earlier last = some turn ∧ turn.outcome.HasStatus 429) ∧
    ((∃ turn, lastTurn? earlier last = some turn ∧ turn.outcome.IsLost) → e.kind = .unexpected)
  /-- With a token in hand the value is asked for, unless one of the next two stands against it. -/
  unasked : last.get = none → (∀ put ∈ last.put, ∃ text, put.outcome.Brings text) →
    result = .error .timeOverflow ∨ ∃ e, result = .error (.error e) ∧ e.kind = .requestInvalid
  /-- The token in hand is the one of before the call, or an earlier attempt has asked for it. -/
  blocked : ∀ e, result = .error (.error e) → e.kind = .requestInvalid → last.get = none ∧
    ∃ found, Blocked c ctx path found last ∧ ∀ token ∈ found,
      c.token = some token ∨ ∃ turn ∈ turnsOf earlier, turn.outcome.Brings token.text
  overflow : result = .error .timeOverflow → last.get = none ∧
    (∃ put text, last.put = some put ∧ put.outcome.Brings text) ∧
    ∃ i, refreshTime? (ctx.clock i) c.ttl = none

theorem lastTurn?_eq (earlier : List Conversation) (last : Conversation) :
    lastTurn? earlier last = last.turns.getLast?.or (turnsOf earlier).getLast? := by
  rw [lastTurn?, turnsOf_concat, List.getLast?_append]

theorem lastTurn?_of_turns {earlier : List Conversation} {last : Conversation} {turn : Turn}
    (own : last.turns.getLast? = some turn) : lastTurn? earlier last = some turn := by
  rw [lastTurn?_eq, own, Option.some_or]

theorem Conversation.isTransient_of_getLast? {ks : List Conversation}
    (each : ∀ k ∈ ks, k.IsTransient) {turn : Turn} (last : (turnsOf ks).getLast? = some turn) :
    turn.outcome.IsTransient := by
  obtain rfl | ⟨earlier, k, rfl⟩ := List.eq_nil_or_concat ks
  · cases last
  · rw [List.concat_eq_append] at each last
    obtain ⟨own, at_end, transient⟩ := each k (List.mem_append_right _ List.mem_cons_self)
    cases (lastTurn?_of_turns at_end).symm.trans last
    exact transient

theorem Conversation.length_turns_le (k : Conversation) : k.turns.length ≤ 2 := by
  rw [turns, List.length_append]
  cases k.put <;> cases k.get <;> simp

theorem Conversation.IsProper.countP_turns_le (proper : k.IsProper) :
    k.turns.countP Turn.asksValue ≤ 1 := by
  have none : k.put.toList.countP Turn.asksValue = 0 :=
    List.countP_eq_zero.mpr fun put asked => proper.not_asksValue put (Option.mem_toList.mp asked)
  rw [Conversation.turns, List.countP_append, none, Nat.zero_add]
  exact Nat.le_trans List.countP_le_length (by cases k.get <;> simp)

theorem length_turnsOf_le (ks : List Conversation) : (turnsOf ks).length ≤ 2 * ks.length := by
  induction ks with
  | nil => exact Nat.le_refl 0
  | cons k ks ih =>
    have own := k.length_turns_le
    rw [turnsOf_cons, List.length_append, List.length_cons]
    omega

theorem countP_turnsOf_le {ks : List Conversation} (proper : ∀ k ∈ ks, k.IsProper) :
    (turnsOf ks).countP Turn.asksValue ≤ ks.length := by
  induction ks with
  | nil => exact Nat.le_refl 0
  | cons k ks ih =>
    obtain ⟨own, rest⟩ := List.forall_mem_cons.mp proper
    have first := own.countP_turns_le
    have later := ih rest
    rw [turnsOf_cons, List.countP_append, List.length_cons]
    omega

/-! ### What is returned -/

/-- What a call returns whose last attempt, number `n`, has such a result. -/
def told (path : String) (n : Nat) (r : Except Failure String) : Except Failure String :=
  (Job.concluded n r).mapError (Client.withPath path)

theorem told_eq_ok_iff {n : Nat} {text : String} : told path n r = .ok text ↔ r = .ok text := by
  rcases r with (e | _) | text
  · exact ⟨nofun, nofun⟩
  · exact ⟨nofun, nofun⟩
  · exact Iff.rfl

theorem told_eq_timeOverflow_iff {n : Nat} :
    told path n r = .error .timeOverflow ↔ r = .error .timeOverflow := by
  rcases r with (e | _) | text
  · exact ⟨nofun, nofun⟩
  · exact Iff.rfl
  · exact ⟨nofun, nofun⟩

theorem told_error (path : String) (n : Nat) (f : Error) :
    ∃ e, told path n (.error (.error f)) = .error (.error e) ∧ e.kind = f.kind := by
  refine ⟨_, rfl, ?_⟩
  cases f.retryable <;> rfl

theorem of_told_error {n : Nat} {e : Error} (failed : told path n r = .error (.error e)) :
    ∃ f, r = .error (.error f) ∧ e.kind = f.kind := by
  rcases r with (f | _) | text
  · obtain ⟨_, same, kind⟩ := told_error path n f
    cases same.symm.trans failed
    exact ⟨f, rfl, kind⟩
  · cases failed
  · cases failed

/-- The last turn of all is the last one of the last attempt, unless that attempt has no turn. -/
theorem lastTurn?_of_ne_nil {earlier : List Conversation} {last : Conversation}
    (full : earlier = [] ∨ last.turns ≠ []) : lastTurn? earlier last = last.turns.getLast? := by
  rw [lastTurn?_eq]
  obtain rfl | asked := full
  · exact Option.or_none
  · rw [List.getLast?_eq_some_getLast asked, Option.some_or]

theorem Settles.of_ends {n : Nat} {earlier : List Conversation} {last : Conversation}
    {found : Option SessionToken} (each : ∀ k ∈ earlier, k.IsProper ∧ k.IsTransient)
    (proper : last.IsProper) (ends : Ends c ctx path found last r)
    (attempts : earlier.length + 1 ≤ max c.policy.maxAttempts 1)
    (exhausted : last.IsTransient → earlier.length + 1 = max c.policy.maxAttempts 1)
    (known : ∀ token ∈ found,
      c.token = some token ∨ ∃ turn ∈ turnsOf earlier, turn.outcome.Brings token.text)
    (full : Forward c ctx → earlier = [] ∨ last.turns ≠ []) :
    Settles c ctx path earlier last (told path n r) := by
  have all : ∀ k ∈ earlier ++ [last], k.IsProper :=
    List.forall_mem_append.mpr
      ⟨fun k member => (each k member).1, List.forall_mem_singleton.mpr proper⟩
  have retried : ∀ k ∈ earlier, k.IsTransient := fun k member => (each k member).2
  have count : (earlier ++ [last]).length = earlier.length + 1 := List.length_append
  have values := countP_turnsOf_le all
  have requests := length_turnsOf_le (earlier ++ [last])
  refine {
    proper := all
    retried, exhausted, attempts
    values := by omega
    requests := by omega
    ok := fun text => ?ok
    last_error := ?last_error
    error := ?error
    unasked := ?unasked
    blocked := ?blocked
    overflow := ?overflow }
  case ok =>
    rw [told_eq_ok_iff, ends.eq_ok_iff proper]
    constructor
    · rintro ⟨turn, own, value, brings⟩
      exact ⟨turn, lastTurn?_of_turns own, value, brings⟩
    · rintro ⟨turn, found, value, brings⟩
      rw [lastTurn?_eq] at found
      cases own : last.turns.getLast? with
      | some other =>
        rw [own] at found
        cases found
        exact ⟨turn, rfl, value, brings⟩
      | none =>
        -- The attempt before ended with that turn, and would have been the last one.
        rw [own, Option.none_or] at found
        exact absurd (Conversation.isTransient_of_getLast? retried found) brings.not_isTransient
  case last_error =>
    intro e failed
    obtain ⟨f, rfl, kind⟩ := of_told_error failed
    rw [kind]
    exact ends.kind
  case error =>
    intro e failed premise
    obtain ⟨f, rfl, kind⟩ := of_told_error failed
    have same : lastTurn? earlier last = last.turns.getLast? := by
      refine lastTurn?_of_ne_nil (premise.elim full fun built => .inr ?_)
      cases ends with
      | rejected own =>
        intro nothing
        rw [nothing] at own
        cases own
      | unbuilt _ _ _ blame => exact absurd (kind.trans blame) built
    rw [same, kind]
    exact ends.kind
  case unasked =>
    intro unasked put
    obtain overflowed | ⟨f, rfl, blame⟩ := ends.of_unasked unasked put
    · exact .inl (told_eq_timeOverflow_iff.mpr overflowed)
    · obtain ⟨e, failed, kind⟩ := told_error path n f
      exact .inr ⟨e, failed, kind.trans blame⟩
  case blocked =>
    intro e failed blame
    obtain ⟨f, rfl, kind⟩ := of_told_error failed
    obtain ⟨unasked, blocked⟩ := ends.blocked (kind.symm.trans blame)
    exact ⟨unasked, found, blocked, known⟩
  case overflow =>
    intro failed
    obtain rfl := told_eq_timeOverflow_iff.mp failed
    exact ends.overflow

theorem get_of_enabled (enabled : c.isDisabled ctx.environment = false) (path : String)
    (transport : Transport) (readings now : Nat) :
    let run := c.policy.run (c.attempt ctx path) ctx.limiterClock ctx.jitter ctx.timer none now
      ⟨c.token, transport, readings⟩
    (c.get ctx path transport readings now).visit = run.state ∧
      (c.get ctx path transport readings now).result =
        run.result.mapError (Client.withPath path) := by
  unfold Client.get
  rw [enabled]
  exact ⟨rfl, rfl⟩

/-- The attempts of a call without a timeout, and what it returns. -/
theorem exists_tries (enabled : c.isDisabled ctx.environment = false)
    (untimed : c.policy.timeout = none) (path : String) (transport : Transport)
    (readings now : Nat) :
    let job : Job Visit String :=
      ⟨c.attempt ctx path, ctx.limiterClock, ctx.jitter, ⟨none, none, ctx.timer⟩⟩
    let r := c.get ctx path transport readings now
    ∃ made start v,
      job.Tries (c.policy.maxAttempts - 1) ⟨c.token, transport, readings⟩ made start v ∧
      r.visit = (c.attempt ctx path start v).state ∧
      r.result = told path (1 + made.length) (c.attempt ctx path start v).result := by
  have deadline : c.policy.deadline? now = some none := by rw [Policy.deadline?, untimed]
  obtain ⟨q, runs, _, _, left, _⟩ := Policy.runs_run deadline (c.attempt ctx path)
    ctx.limiterClock ctx.jitter ctx.timer none ⟨c.token, transport, readings⟩
  obtain ⟨made, start, v, tries, state, result⟩ := Job.tries_of_runs ⟨rfl, rfl⟩ runs
  obtain ⟨visit, returned⟩ := get_of_enabled enabled path transport readings now
  exact ⟨made, start, v, tries, visit.trans (left.trans state),
    returned.trans (congrArg (Except.mapError (Client.withPath path)) result)⟩

/-- A call without a timeout settles within the attempts of its policy. -/
theorem get_settles (c : Client) (ctx : Surroundings) (path : String) (transport : Transport)
    (readings now : Nat) (enabled : c.isDisabled ctx.environment = false)
    (untimed : c.policy.timeout = none) :
    let r := c.get ctx path transport readings now
    ∃ earlier last, Answers transport (turnsOf (earlier ++ [last])) r.visit.transport ∧
      Settles c ctx path earlier last r.result := by
  intro r
  obtain ⟨made, start, v, tries, visit, result⟩ :=
    exists_tries enabled untimed path transport readings now
  obtain ⟨earlier, length, sent, each, known, ready⟩ := exists_retried tries.calls tries.retried
  obtain ⟨last, attempted⟩ := attempted_attempt c ctx path start v
  have allowed := tries.allowed
  refine ⟨earlier, last, ?_, ?_⟩
  · rw [turnsOf_concat, visit]
    exact sent.append attempted.sent
  · rw [result]
    refine .of_ends each attempted.isProper attempted.ends (by omega) (fun transient => ?_) known
      fun forward => ?_
    · have exhausted := tries.exhausted (attempted.ends.retries_iff.mpr transient)
      omega
    · exact (ready forward).imp And.left fun ready => ready.turns_ne_nil attempted

/-- A service that is down for two requests, with a token that it has given before. -/
def flaky : Transport :=
  replies [(okay, "token"), (⟨503, by decide⟩, ""), (⟨500, by decide⟩, ""), (okay, "value")]

theorem get_settles_flaky :
    hourly.isDisabled (calm .epoch).environment = false ∧ hourly.policy.timeout = none ∧
    ∃ earlier last turn, lastTurn? earlier last = some turn ∧ turn.asksValue ∧
      turn.outcome.Brings "value" ∧ earlier.length ≤ 3 ∧
      Answers flaky (turnsOf (earlier ++ [last]))
        (hourly.get (calm .epoch) "x" flaky 0 0).visit.transport := by
  have enabled : hourly.isDisabled (calm .epoch).environment = false := by decide +kernel
  obtain ⟨earlier, last, has, settles⟩ :=
    get_settles hourly (calm .epoch) "x" flaky 0 0 enabled rfl
  have read : (hourly.get (calm .epoch) "x" flaky 0 0).result = .ok "value" := by rfl
  obtain ⟨turn, final, value, brings⟩ := (settles.ok "value").mp read
  exact ⟨enabled, rfl, earlier, last, turn, final, value, brings,
    Nat.le_of_succ_le_succ settles.attempts, has⟩

/-- A clock that is set back behind its first reading. -/
def setBack : Surroundings where
  environment := .empty
  clock n := if n = 0 then ⟨20, 0, by decide⟩ else .epoch
  limiterClock _ := .epoch
  jitter _ d := d
  timer := timerEnd

/-- Its token has a line end, so no field can hold it. -/
def unsendable : Client := { hourly with token := some ⟨"a\nb", ⟨10, 0, by decide⟩⟩ }

def throttling : Transport := replies [(⟨429, by decide⟩, "")]

/-- The cached token is stale when the first attempt is throttled, and fresh when the second one
comes to build its request.  The last outcome of all is a 429, and the error does not tell so. -/
theorem get_unthrottled_setBack :
    let r := unsendable.get setBack "x" throttling 0 0
    unsendable.isDisabled setBack.environment = false ∧ unsendable.policy.timeout = none ∧
      ∃ turn e, Answers throttling [turn] r.visit.transport ∧ r.result = .error (.error e) ∧
        ¬(e.kind = .throttled ↔ turn.outcome.HasStatus 429) := by
  intro r
  have enabled : unsendable.isDisabled setBack.environment = false := by decide +kernel
  obtain ⟨turn, sent, throttled⟩ : ∃ turn, Answers throttling [turn] r.visit.transport ∧
      turn.outcome.HasStatus 429 := ⟨⟨_, _⟩, rfl, _, rfl, rfl⟩
  obtain ⟨e, failed, kind⟩ : ∃ e, r.result = .error (.error e) ∧ e.kind = .requestInvalid :=
    ⟨_, rfl, rfl⟩
  refine ⟨enabled, rfl, turn, e, sent, failed, fun same => ?_⟩
  have other := kind.symm.trans (same.mpr throttled)
  cases other

end RequestSigning.Metadata
