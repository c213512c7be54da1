import RequestSigning.Proofs.Metadata.LifeCycle
import RequestSigning.Proofs.Metadata.Reading

/-!
# Tokens that no field can hold

A token is cached as it comes, and is put into a field only when the value is asked for.  Whatever
calls came before, a cached token is the text of a response: it is not empty, and a field can hold it
exactly where each octet of the body can be in one.  `after_meets`: a token that no field can hold
blocks every call that finds it fresh, and stays cached.
-/

namespace RequestSigning

namespace Http.Transport

/-- The response is among the answers to come. -/
def Gives (t : Transport) (r : Response) : Prop :=
  ∃ script, t.script = some script ∧ ∃ e ∈ script, e.outcome = .ok r

variable {t : Transport} {asked : Request} {r : Response}

theorem gives_of_send (answered : (t.send asked).1.outcome = .ok r) : t.Gives r := by
  unfold send at answered
  split at answered
  · cases answered
  · cases answered
  · rename_i e rest script
    exact ⟨_, script, e, List.mem_cons_self, answered⟩

/-- No answers are added. -/
theorem Gives.of_send (later : (t.send asked).2.Gives r) : t.Gives r := by
  obtain ⟨script, has, e, member, answered⟩ := later
  unfold send at has
  split at has
  · exact ⟨script, has, e, member, answered⟩
  · cases has
    cases member
  · rename_i first rest known
    cases has
    exact ⟨_, known, e, List.mem_cons_of_mem first member, answered⟩

end Http.Transport

namespace Metadata

open Http

theorem Answers.gives {t u : Transport} {turns : List Turn} (answers : Answers t turns u) :
    (∀ turn ∈ turns, ∀ r, turn.outcome = .ok r → t.Gives r) ∧ ∀ r, u.Gives r → t.Gives r := by
  induction turns generalizing t with
  | nil =>
    cases answers
    exact ⟨nofun, fun _ => id⟩
  | cons turn later ih =>
    obtain ⟨own, rest⟩ := answers_cons_iff.mp answers
    obtain ⟨given, left⟩ := ih rest
    refine ⟨List.forall_mem_cons.mpr ⟨fun r outcome => ?_, fun turn member r outcome => ?_⟩,
      fun r gives => (left r gives).of_send⟩
    · exact Transport.gives_of_send (own.trans outcome)
    · exact (given turn member r outcome).of_send

/-! ### Where a cached token comes from -/

variable {c : Client} {ctx : Surroundings} {path : String} {v w : Visit} {t : SessionToken}

/-- A response that is to come brings this text. -/
def Supplies (t : Transport) (text : String) : Prop :=
  ∃ r, t.Gives r ∧ Outcome.Brings (.ok r) text

/-- A token that calls leave was there before, or it came while they were made. -/
theorem token_of_calls {made : List (Nat × Visit)} (calls : Calls (c.attempt ctx path) v made w)
    (cached : w.token = some t) : v.token = some t ∨ Supplies v.transport t.text := by
  induction calls with
  | nil v => exact .inl cached
  | @cons start v w later rest ih =>
    obtain ⟨k, attempted⟩ := attempted_attempt c ctx path start v
    obtain ⟨given, left⟩ := attempted.sent.gives
    obtain before | ⟨r, gives, brings⟩ := ih cached
    · refine (attempted.token_found before).imp_right ?_
      rintro ⟨turn, member, brings⟩
      have ⟨r, outcome, _⟩ := brings
      exact ⟨r, given turn member r outcome, outcome ▸ brings⟩
    · exact .inr ⟨r, left r gives, brings⟩

theorem token_of_after {earlier : List Query} (cached : (c.after earlier).token = some t) :
    c.token = some t ∨ ∃ q ∈ earlier, Supplies q.transport t.text := by
  induction earlier generalizing c with
  | nil => exact .inl cached
  | cons q later ih =>
    obtain left | ⟨other, member, supplies⟩ := ih (c := (c.serve q).client) cached
    · obtain ⟨made, calls, _⟩ := c.calls_serve q
      rw [Client.token_serve] at left
      exact (token_of_calls calls left).imp_right fun supplies =>
        ⟨q, List.mem_cons_self, supplies⟩
    · exact .inr ⟨other, List.mem_cons_of_mem q member, supplies⟩

/-! ### What becomes of a call that finds it -/

variable {r : Except Failure String}

/-- The result is that a request cannot be built. -/
def IsInvalid (r : Except Failure String) : Prop :=
  ∃ e, r = .error (.error e) ∧ e.kind = .requestInvalid

namespace Fetches

variable {text : String} {get : Option Turn}

/-- A request with a token that no field can hold is not sent, and no other attempt is made. -/
theorem final_of_unwritable (fetches : Fetches c ctx path text v get r w)
    (unwritable : ¬IsFieldText text) :
    w = v ∧ ∃ e, r = .error (.error e) ∧ e.kind = .requestInvalid ∧ e.retryable = false := by
  cases fetches with
  | @unbuilt e built => exact ⟨rfl, e, rfl, of_unwritable built⟩
  | answered built => exact absurd (isFieldText_of_valueRequest built) unwritable

theorem isInvalid_iff (fetches : Fetches c ctx path text v get r w)
    (valid : ∃ uri,
      Uri.parse? (Utf8.encode (valueUrl (c.endpointText ctx.environment) path)) = .ok uri) :
    IsInvalid r ↔ ¬IsFieldText text := by
  constructor
  · rintro ⟨e, failed, kind⟩ writable
    obtain ⟨request, built⟩ := exists_valueRequest valid writable
    cases fetches with
    | unbuilt unbuilt => cases built.symm.trans unbuilt
    | @answered turn =>
      cases answered : answer .value turn.outcome with
      | ok text =>
        rw [answered] at failed
        cases failed
      | error e =>
        rw [answered] at failed
        cases failed
        exact (Outcome.Rejects.of_answer answered).sent kind
  · intro unwritable
    obtain ⟨_, e, failed, kind, _⟩ := fetches.final_of_unwritable unwritable
    exact ⟨e, failed, kind⟩

end Fetches

theorem attempt_of_unwritable (fresh : v.IsFresh ctx.clock t) (unwritable : ¬IsFieldText t.text)
    (path : String) (start : Nat) :
    (c.attempt ctx path start v).state = v.checked ∧
      ∃ e, (c.attempt ctx path start v).result = .error (.error e) ∧
        e.kind = .requestInvalid ∧ e.retryable = false := by
  obtain ⟨get, fetches⟩ := fetches_of_fresh fresh path start
  exact fetches.final_of_unwritable unwritable

/-- A call whose first attempt is not to be tried again comes to that attempt, or makes none. -/
theorem serve_of_final {q : Query}
    (final : ∀ start, ¬(c.attempt q.surroundings q.path start (c.found q)).Retries) :
    (∃ start, (c.serve q).visit = (c.attempt q.surroundings q.path start (c.found q)).state ∧
      (c.serve q).result = (c.attempt q.surroundings q.path start (c.found q)).result.mapError
        (Client.withPath q.path)) ∨
      (c.serve q).visit = c.found q ∧ (∃ failure, (c.serve q).result = .error failure) ∧
        (c.isDisabled q.surroundings.environment = true ∨ c.policy.timeout ≠ none) := by
  cases disabled : c.isDisabled q.surroundings.environment with
  | true =>
    have refused : c.serve q = ⟨.error (.error Client.disabledError), c, c.found q, q.now, []⟩ := by
      rw [Client.serve, Client.get, if_pos disabled]
      rfl
    exact .inr ⟨congrArg Reading.visit refused, ⟨_, congrArg Reading.result refused⟩, .inl rfl⟩
  | false =>
    obtain ⟨visit, returned⟩ := get_of_enabled disabled q.path q.transport q.readings q.now
    obtain ⟨start, state, result⟩ | ⟨state, timed, failure, result⟩ :=
      c.policy.run_of_final final q.surroundings.limiterClock q.surroundings.jitter
        q.surroundings.timer q.now
    · exact .inl ⟨start, visit.trans state, returned.trans (congrArg _ result)⟩
    · exact .inr ⟨visit.trans state, ⟨_, returned.trans (congrArg _ result)⟩, .inr timed⟩

/-- The call fails, sends nothing and leaves the token cached. -/
structure BlockedBy (t : SessionToken) (c : Client) (q : Query) : Prop where
  fails : ∃ failure, (c.serve q).result = .error failure
  unsent : (c.serve q).visit.transport = q.transport
  cached : (c.serve q).client.token = some t
  invalid : c.isDisabled q.surroundings.environment = false → c.policy.timeout = none →
    IsInvalid (c.serve q).result

theorem blockedBy_of_unwritable {q : Query} (fresh : (c.found q).IsFresh q.surroundings.clock t)
    (unwritable : ¬IsFieldText t.text) : BlockedBy t c q := by
  have final : ∀ start, ¬(c.attempt q.surroundings q.path start (c.found q)).Retries := by
    rintro start ⟨e, failed, retryable⟩
    obtain ⟨_, f, same, _, once⟩ := attempt_of_unwritable fresh unwritable q.path start
    cases failed.symm.trans same
    exact Bool.false_ne_true (once.symm.trans retryable)
  obtain ⟨start, visit, result⟩ | ⟨visit, failed, unmade⟩ := serve_of_final final
  · obtain ⟨state, e, failed, kind, _⟩ := attempt_of_unwritable fresh unwritable q.path start
    rw [state] at visit
    rw [failed] at result
    exact {
      fails := ⟨_, result⟩
      unsent := by rw [visit, Visit.transport_checked]; rfl
      cached := by rw [Client.token_serve, visit, Visit.token_checked]; exact fresh.1
      invalid := fun _ _ => ⟨_, result, kind⟩ }
  · exact {
      fails := failed
      unsent := congrArg Visit.transport visit
      cached := by rw [Client.token_serve, visit]; exact fresh.1
      invalid := fun enabled untimed =>
        unmade.elim (fun disabled => nomatch enabled.symm.trans disabled) (absurd untimed) }

/-- What becomes of a call that finds the token fresh: it can ask for the value, as far as its url is
one, exactly where a field can hold the token. -/
structure Meets (t : SessionToken) (c : Client) (q : Query) : Prop where
  attempt : (∃ uri, Uri.parse? (Utf8.encode
      (valueUrl (c.endpointText q.surroundings.environment) q.path)) = .ok uri) →
    ∀ start, IsInvalid (c.attempt q.surroundings q.path start (c.found q)).result ↔
      ¬IsFieldText t.text
  blocked : ¬IsFieldText t.text → BlockedBy t c q

/-- A token that calls have cached is not empty, and a field can hold it exactly where each octet of
the body that it came in can be in one.  A token that no field can hold blocks every call that finds
it fresh. -/
theorem after_meets (c : Client) (uncached : c.token = none) (earlier : List Query)
    (cached : (c.after earlier).token = some t) :
    t.text ≠ "" ∧
      (∃ q ∈ earlier, ∃ r, q.transport.Gives r ∧ Outcome.Brings (.ok r) t.text ∧
        (IsFieldText t.text ↔ ∀ b ∈ r.body, isFieldByte b = true)) ∧
      ∀ q, ((c.after earlier).found q).IsFresh q.surroundings.clock t →
        Meets t (c.after earlier) q := by
  obtain before | ⟨q, member, r, gives, brings⟩ := token_of_after cached
  · cases uncached.symm.trans before
  have ⟨_, same, _, text, filled⟩ := brings
  cases same
  refine ⟨filled, ⟨q, member, r, gives, brings, ?_⟩, fun q fresh => ?_⟩
  · rw [← text]
    exact isFieldText_decodeLossy_iff
  · exact {
      attempt := fun valid start => by
        obtain ⟨get, fetches⟩ := fetches_of_fresh fresh q.path start
        exact fetches.isInvalid_iff valid
      blocked := blockedBy_of_unwritable fresh }

/-- A service whose first token ends with a line feed. -/
def brokenQuery : Query :=
  ⟨calm .epoch, "a", replies [(okay, "token\n")], 0, 0⟩

/-- The next call finds the service mended. -/
def mendedQuery : Query :=
  ⟨calm .epoch, "b", replies [(okay, "token"), (okay, "value")], 0, 0⟩

/-- What it leaves, for fifty minutes. -/
def brokenToken : SessionToken := ⟨"token\n", secondQuery.surroundings.clock 0⟩

theorem after_meets_brokenToken :
    hourly.token = none ∧ (hourly.after [brokenQuery]).token = some brokenToken ∧
      ((hourly.after [brokenQuery]).found mendedQuery).IsFresh mendedQuery.surroundings.clock
        brokenToken ∧
      BlockedBy brokenToken (hourly.after [brokenQuery]) mendedQuery := by
  have cached : (hourly.after [brokenQuery]).token = some brokenToken := by decide +kernel
  have fresh : ((hourly.after [brokenQuery]).found mendedQuery).IsFresh
      mendedQuery.surroundings.clock brokenToken := ⟨cached, by decide⟩
  obtain ⟨_, _, meets⟩ := after_meets hourly rfl [brokenQuery] cached
  exact ⟨rfl, cached, fresh, (meets mendedQuery fresh).blocked (by decide)⟩

/-- The token is cached and fresh, no field can hold it, and the call fails for it. -/
theorem after_brokenQuery :
    (hourly.after [brokenQuery]).token = some brokenToken ∧ ¬IsFieldText brokenToken.text ∧
      IsInvalid ((hourly.after [brokenQuery]).serve mendedQuery).result ∧
      ((hourly.after [brokenQuery]).serve mendedQuery).visit.transport = mendedQuery.transport := by
  exact ⟨by decide +kernel, by decide, ⟨_, rfl, rfl⟩, rfl⟩

end Metadata

end RequestSigning
