import RequestSigning.Proofs.Retry.Steps

/-!
# What a run and its limiter tell each other

Every call is admitted before and reported behind.  `Progress.Balanced` holds between attempts, and
`run_exchanges`: behind a run there is at most one admission more, which was waited for in vain.
-/

namespace RequestSigning

/-- What passes between a run, its limiter and its operation. -/
inductive Exchange
  /-- Asked for one token. -/
  | asked
  | called
  | told (throttled : Bool)
  deriving DecidableEq

def Trace.exchange? : Trace → Option Exchange
  | .acquired _ _ => some .asked
  | .called _ _ => some .called
  | .sampled _ throttled => some (.told throttled)
  | .delayed _ _ => none

/-- The limiter behind a step of a run. -/
def Limiter.follow (clock : Nat → Instant) (l : Limiter Float) : Trace → Limiter Float
  | .acquired time _ => (l.asked (clock time)).2.1
  | .sampled time throttled => (l.told (clock time) throttled).1
  | .called _ _ => l
  | .delayed _ _ => l

variable {σ α : Type}

/-- So many calls, each admitted before and reported behind. -/
def Script.exchanges (script : Script α) (made : Nat) : List Exchange :=
  (List.range' 1 made).flatMap fun n => [.asked, .called, .told (script.throttles n)]

theorem Script.exchanges_succ (script : Script α) (made : Nat) :
    script.exchanges (made + 1) =
      script.exchanges made ++ [.asked, .called, .told (script.throttles (made + 1))] := by
  rw [exchanges, List.range'_1_concat, List.flatMap_append, Nat.add_comm 1]
  rfl

def Progress.exchanges (p : Progress σ) : List Exchange := p.trace.filterMap Trace.exchange?

/-- The limiter, `first` at the beginning, has done what the trace says and nothing else. -/
def Progress.Follows (clock : Nat → Instant) (first : Limiter Float) (p : Progress σ) : Prop :=
  p.limiter = some (p.trace.foldl (Limiter.follow clock) first)

/-- So far every call was admitted and reported. -/
structure Progress.Balanced (script : Script α) (clock : Nat → Instant) (first : Limiter Float)
    (p : Progress Nat) : Prop where
  follows : p.Follows clock first
  exchanges : p.exchanges = script.exchanges p.state

/-- A run ended in the wait for an admission, which was the last thing that it did. -/
def EndsAwaiting (limits : Limits) (result : Except Failure α) (now : Nat)
    (trace : List Trace) : Prop :=
  ∃ before time d i, trace = before ++ [.acquired time (.after d)] ∧
    limits.wait time d = (now, some i) ∧ result = .error (.error i.toError)

theorem not_endsAwaiting {limits : Limits} {result : Except Failure α} {now : Nat}
    {before : List Trace} {last : Trace} (other : ∀ time grant, last ≠ .acquired time grant) :
    ¬EndsAwaiting limits result now (before ++ [last]) := by
  rintro ⟨front, time, d, i, same, _⟩
  have lasts := congrArg List.getLast? same
  rw [List.getLast?_concat, List.getLast?_concat, Option.some.injEq] at lasts
  exact other time _ lasts

namespace Job

variable {script : Script α} {job : Job Nat α} {b : Backoff} {first : Limiter Float}
  {p q : Progress Nat}

/-! ### Steps -/

theorem exchanges_enter {r : Except Error Unit} (follows : p.Follows job.clock first)
    (entered : job.enter p = (r, q)) :
    q.state = p.state ∧ q.Follows job.clock first ∧ q.exchanges = p.exchanges ++ [.asked] ∧
      (r = .ok () ∨ ∃ e, r = .error e ∧
        EndsAwaiting (α := α) job.limits (.error (.error e)) q.now q.trace) := by
  obtain ⟨state, limiter, trace, ended⟩ := enter_of_limited follows entered
  refine ⟨state, ?_, ?_, ended.imp id ?_⟩
  · rw [Progress.Follows, limiter, trace, List.foldl_append]
    rfl
  · rw [Progress.exchanges, trace, List.filterMap_append]
    rfl
  · rintro ⟨d, i, granted, interrupted, failed⟩
    rw [granted] at trace
    exact ⟨_, failed, _, _, d, i, trace, interrupted, rfl⟩

theorem exchanges_perform {r : Except Failure α} (runs : job.call = script.call)
    (follows : p.Follows job.clock first) (called : job.perform p = (r, q)) :
    r = (script.outcome (p.state + 1)).mapError .error ∧ q.state = p.state + 1 ∧
      q.Follows job.clock first ∧ q.exchanges = p.exchanges ++ [.called] := by
  obtain ⟨result, state, limiter, trace⟩ := Script.perform_cases runs called
  refine ⟨result, state, ?_, ?_⟩
  · rw [Progress.Follows, limiter, trace, List.foldl_append, follows]
    rfl
  · rw [Progress.exchanges, trace, List.filterMap_append]
    rfl

theorem exchanges_report (follows : p.Follows job.clock first) (throttled : Bool) :
    (job.report p throttled).state = p.state ∧
      (job.report p throttled).Follows job.clock first ∧
      (job.report p throttled).exchanges = p.exchanges ++ [.told throttled] ∧
      (job.report p throttled).trace = p.trace ++ [.sampled p.now throttled] := by
  rw [report_of_limited follows]
  refine ⟨rfl, ?_, ?_, rfl⟩
  · rw [Progress.Follows, List.foldl_append]
    rfl
  · rw [Progress.exchanges, List.filterMap_append]
    rfl

/-- An admitted call that is reported with what the service made of it keeps the balance. -/
theorem balanced_report {entered called : Progress Nat} {r : Except Failure α}
    (runs : job.call = script.call) (balanced : p.Balanced script job.clock first)
    (enter : job.enter p = (.ok (), entered)) (perform : job.perform entered = (r, called))
    {throttled : Bool} (told : throttled = script.throttles (p.state + 1)) :
    r = (script.outcome (p.state + 1)).mapError .error ∧
      (job.report called throttled).Balanced script job.clock first ∧
      (job.report called throttled).trace = called.trace ++ [.sampled called.now throttled] := by
  obtain ⟨state, follows, asked, _⟩ := exchanges_enter balanced.follows enter
  obtain ⟨result, performed, follows, call⟩ := exchanges_perform runs follows perform
  obtain ⟨kept, follows, report, trace⟩ := exchanges_report follows throttled
  rw [state] at result performed
  refine ⟨result, ⟨follows, ?_⟩, trace⟩
  rw [report, call, asked, balanced.exchanges, kept, performed, script.exchanges_succ, told]
  simp only [List.append_assoc, List.cons_append, List.nil_append]

theorem balanced_fails {e : Error} (runs : job.call = script.call)
    (balanced : p.Balanced script job.clock first) (fails : job.Fails p e q) :
    q.Balanced script job.clock first ∧
      ∃ before time throttled, q.trace = before ++ [.sampled time throttled] := by
  obtain ⟨entered, called, enter, perform, rfl⟩ := fails
  obtain ⟨state, follows, _, _⟩ := exchanges_enter balanced.follows enter
  obtain ⟨result, _⟩ := exchanges_perform runs follows perform
  obtain ⟨_, same, outcome⟩ := Script.eq_error_of_mapError result
  cases same
  have told : e.isThrottled = script.throttles (p.state + 1) := by
    rw [Script.throttles, ← state, outcome]
  obtain ⟨_, kept, trace⟩ := balanced_report runs balanced enter perform told
  exact ⟨kept, _, _, _, trace⟩

theorem balanced_backOff {n : Nat} {e : Error} {r : Except Error Unit}
    (balanced : p.Balanced script job.clock first) (waited : job.backOff b n e p = (r, q)) :
    q.Balanced script job.clock first ∧
      q.trace = p.trace ++ [.delayed n (b.delay job.jitter n)] := by
  obtain ⟨state, limiter, trace, _⟩ := backOff_cases waited
  refine ⟨⟨?_, ?_⟩, trace⟩
  · rw [Progress.Follows, limiter, trace, List.foldl_append, balanced.follows]
    rfl
  · rw [Progress.exchanges, trace, List.filterMap_append, state, ← balanced.exchanges]
    exact List.append_nil _

/-! ### Runs -/

/-- A run keeps the balance, unless it ends in the wait for an admission: then that one is left. -/
theorem balanced_runs (runs : job.call = script.call) {left n : Nat} {r : Except Failure α}
    (run : job.Runs b left n p r q) (balanced : p.Balanced script job.clock first) :
    q.Follows job.clock first ∧
      (q.exchanges = script.exchanges q.state ∧ ¬EndsAwaiting job.limits r q.now q.trace ∨
        q.exchanges = script.exchanges q.state ++ [.asked] ∧
          EndsAwaiting job.limits r q.now q.trace) := by
  induction run with
  | refused entered =>
    obtain ⟨state, follows, asked, passed | ⟨_, same, ends⟩⟩ :=
      exchanges_enter (α := α) balanced.follows entered
    · cases passed
    · cases same
      exact ⟨follows, .inr ⟨by rw [asked, balanced.exchanges, state], ends⟩⟩
  | @succeeded left n p q t value entered called =>
    obtain ⟨state, follows, _, _⟩ := exchanges_enter balanced.follows entered
    obtain ⟨result, _⟩ := exchanges_perform runs follows called
    have outcome := Script.eq_ok_of_mapError result
    have told : false = script.throttles (p.state + 1) := by
      rw [Script.throttles, ← state, outcome]
    obtain ⟨_, kept, trace⟩ := balanced_report runs balanced entered called told
    exact ⟨kept.follows, .inl ⟨kept.exchanges, trace ▸ not_endsAwaiting nofun⟩⟩
  | overflowed entered called =>
    obtain ⟨_, follows, _, _⟩ := exchanges_enter balanced.follows entered
    obtain ⟨result, _⟩ := exchanges_perform runs follows called
    obtain ⟨_, other, _⟩ := Script.eq_error_of_mapError result
    cases other
  | failed fails final =>
    obtain ⟨kept, _, _, _, trace⟩ := balanced_fails runs balanced fails
    exact ⟨kept.follows, .inl ⟨kept.exchanges, trace ▸ not_endsAwaiting nofun⟩⟩
  | exhausted fails retryable =>
    obtain ⟨kept, _, _, _, trace⟩ := balanced_fails runs balanced fails
    exact ⟨kept.follows, .inl ⟨kept.exchanges, trace ▸ not_endsAwaiting nofun⟩⟩
  | interrupted fails retryable waited =>
    obtain ⟨kept, trace⟩ := balanced_backOff (balanced_fails runs balanced fails).1 waited
    exact ⟨kept.follows, .inl ⟨kept.exchanges, trace ▸ not_endsAwaiting nofun⟩⟩
  | again fails retryable waited rest ih =>
    exact ih (balanced_backOff (balanced_fails runs balanced fails).1 waited).1

end Job

/-- Whatever the outcomes, the deadline and the cancellation are, the limiter is asked for one token
before every call and told behind it whether the service throttled.  It is asked once more exactly
if the run ends in the wait for that admission, with an error for the lack of time.  Nothing else
happens to the limiter. -/
theorem run_exchanges (p : Policy) (limiter : Limiter Float) (script : Script α)
    (clock : Nat → Instant) (jitter : Jitter) (timer : Timer) (cancellation : Option Nat)
    (now : Nat) :
    let r := { p with limiter := some limiter }.run script.call clock jitter timer cancellation now 0
    let limits : Limits := ⟨(p.deadline? now).join, cancellation, timer⟩
    let rounds := (List.range' 1 r.state).flatMap fun n =>
      [.asked, .called, .told (script.throttles n)]
    r.policy.limiter = some (r.trace.foldl (Limiter.follow clock) limiter) ∧
      (r.trace.filterMap Trace.exchange? = rounds ∧
          ¬EndsAwaiting limits r.result r.now r.trace ∨
        r.trace.filterMap Trace.exchange? = rounds ++ [.asked] ∧
          EndsAwaiting limits r.result r.now r.trace ∧
          ∃ e, r.result = .error (.error e) ∧ e.kind = .timeout) := by
  intro r limits rounds
  cases known : p.deadline? now with
  | none =>
    -- A timeout beyond the range of the clock ends the run before it begins.
    have nothing : r = ⟨.error .timeOverflow, { p with limiter := some limiter }, now, 0, [], []⟩ := by
      have out : { p with limiter := some limiter }.deadline? now = none := known
      simp only [r, Policy.run, out]
    rw [show rounds = [] by simp only [rounds, nothing]; rfl, nothing]
    refine ⟨rfl, .inl ⟨rfl, ?_⟩⟩
    rintro ⟨_, _, _, _, _, _, other⟩
    cases other
  | some deadline =>
    obtain ⟨q, runs, time, kept, state, trace⟩ := Policy.runs_run
      (p := { p with limiter := some limiter }) known script.call clock jitter timer cancellation 0
    have balanced : Progress.Balanced script clock limiter ⟨now, some limiter, 0, [], []⟩ :=
      ⟨rfl, rfl⟩
    obtain ⟨follows, ended⟩ := Job.balanced_runs rfl runs balanced
    have within : limits = ⟨deadline, cancellation, timer⟩ := by
      simp only [limits, known]
      rfl
    rw [within]
    have seen : r.trace.filterMap Trace.exchange? = q.exchanges :=
      congrArg (List.filterMap Trace.exchange?) trace
    have made : rounds = script.exchanges q.state := congrArg script.exchanges state
    rw [seen, made]
    rw [← time, ← trace] at ended
    refine ⟨kept.trans (trace ▸ follows), ended.imp id fun waiting => ⟨waiting.1, waiting.2, ?_⟩⟩
    obtain ⟨_, _, _, i, _, _, result⟩ := waiting.2
    exact ⟨i.toError, result, i.kind_toError⟩

end RequestSigning
