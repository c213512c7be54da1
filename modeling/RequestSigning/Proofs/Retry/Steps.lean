import RequestSigning.Retry.Policy

/-!
# The steps of a run

`Runs` relates a run to what it leaves, with one rule for each way out and one for an attempt that
another follows: `runs_attempts`.  What is to hold of every run is proved over these rules, from one
lemma for each step.  A `Script` is an operation whose outcomes are all known.
-/

namespace RequestSigning

variable {σ α : Type}

theorem Interruption.kind_toError (i : Interruption) : i.toError.kind = .timeout := by
  cases i <;> rfl

/-- Nothing ends a wait before its timer does. -/
def Limits.Free (l : Limits) : Prop := l.deadline = none ∧ l.cancellation = none

theorem Limits.Free.wait_ne {l : Limits} (free : l.Free) (now : Nat) (d : Duration) {finish : Nat}
    {i : Interruption} : l.wait now d ≠ (finish, some i) := by
  obtain ⟨endless, uncancelled⟩ := free
  rw [wait, endless, uncancelled]
  intro same
  cases same

/-- One token that is asked for at an instant. -/
def Limiter.asked (l : Limiter Float) (t : Instant) :
    Grant Float × Limiter Float × List (LimiterEvent Float) :=
  l.take (RateNumber.ofInstant t) (RateNumber.ofInt 1)

/-- An outcome that is reported at an instant. -/
def Limiter.told (l : Limiter Float) (t : Instant) (throttled : Bool) :
    Limiter Float × List (LimiterEvent Float) :=
  l.sample (RateNumber.ofInstant t) throttled

namespace Job

variable {job : Job σ α} {b : Backoff} {p q : Progress σ}

/-- An attempt from `p` on is admitted and fails with `e`, and the limiter is told. -/
def Fails (job : Job σ α) (p : Progress σ) (e : Error) (q : Progress σ) : Prop :=
  ∃ entered called, job.enter p = (.ok (), entered) ∧
    job.perform entered = (.error (.error e), called) ∧ q = job.report called e.isThrottled

/-- Attempt number `n` and those behind it, of which there are at most `left`. -/
inductive Runs (job : Job σ α) (b : Backoff) :
    (left n : Nat) → Progress σ → Except Failure α → Progress σ → Prop
  | refused {left n : Nat} {p q : Progress σ} {e : Error} (entered : job.enter p = (.error e, q)) :
      Runs job b left n p (.error (.error e)) q
  | succeeded {left n : Nat} {p q t : Progress σ} {value : α}
      (entered : job.enter p = (.ok (), q)) (called : job.perform q = (.ok value, t)) :
      Runs job b left n p (.ok value) (job.report t false)
  | overflowed {left n : Nat} {p q t : Progress σ} (entered : job.enter p = (.ok (), q))
      (called : job.perform q = (.error .timeOverflow, t)) :
      Runs job b left n p (.error .timeOverflow) t
  | failed {left n : Nat} {p q : Progress σ} {e : Error} (fails : job.Fails p e q)
      (final : e.retryable = false) : Runs job b left n p (.error (.error e)) q
  | exhausted {n : Nat} {p q : Progress σ} {e : Error} (fails : job.Fails p e q)
      (retryable : e.retryable = true) :
      Runs job b 0 n p (.error (.error (Job.exhausted e n))) q
  | interrupted {left n : Nat} {p q t : Progress σ} {e f : Error} (fails : job.Fails p e q)
      (retryable : e.retryable = true) (waited : job.backOff b n e q = (.error f, t)) :
      Runs job b (left + 1) n p (.error (.error f)) t
  | again {left n : Nat} {p q t u : Progress σ} {e : Error} {r : Except Failure α}
      (fails : job.Fails p e q) (retryable : e.retryable = true)
      (waited : job.backOff b n e q = (.ok (), t)) (rest : Runs job b left (n + 1) t r u) :
      Runs job b (left + 1) n p r u

theorem runs_attempts (left n : Nat) (p : Progress σ) :
    Runs job b left n p (job.attempts b left n p).1 (job.attempts b left n p).2 := by
  fun_induction attempts job b left n p with
  | case1 left n p e q entered => exact .refused entered
  | case2 left n p q entered value t called => exact .succeeded entered called
  | case3 left n p q entered t called => exact .overflowed entered called
  | case4 n p entered enter e called perform told retryable =>
    exact .exhausted ⟨entered, called, enter, perform, rfl⟩ retryable
  | case5 n p entered enter e called perform told retryable left f t waited =>
    exact .interrupted ⟨entered, called, enter, perform, rfl⟩ retryable waited
  | case6 n p entered enter e called perform told retryable left t waited ih =>
    exact .again ⟨entered, called, enter, perform, rfl⟩ retryable waited ih
  | case7 left n p entered enter e called perform told final =>
    exact .failed ⟨entered, called, enter, perform, rfl⟩ (Bool.not_eq_true _ ▸ final)

/-! ### One lemma for each step -/

/-- A wait leaves all but the time as it is, and fails only when it is interrupted. -/
theorem pause_cases {d : Duration} {r : Except Error Unit} (paused : job.pause p d = (r, q)) :
    q = { p with now := q.now } ∧
      (r = .ok () ∨ ∃ i, job.limits.wait p.now d = (q.now, some i) ∧ r = .error i.toError) := by
  unfold pause at paused
  cases ended : job.limits.wait p.now d with
  | mk finish interruption =>
    rw [ended] at paused
    cases paused
    cases interruption with
    | none => exact ⟨rfl, .inl rfl⟩
    | some i => exact ⟨rfl, .inr ⟨i, rfl, rfl⟩⟩

theorem enter_of_unlimited (unlimited : p.limiter = none) : job.enter p = (.ok (), p) := by
  rw [enter, unlimited]

/-- Whoever asks the limiter takes one token, and stops only where the wait for it is
interrupted. -/
theorem enter_of_limited {limiter : Limiter Float} {r : Except Error Unit}
    (limited : p.limiter = some limiter) (entered : job.enter p = (r, q)) :
    q.state = p.state ∧ q.limiter = some (limiter.asked (job.clock p.now)).2.1 ∧
      q.trace = p.trace ++ [.acquired p.now (limiter.asked (job.clock p.now)).1.rounded] ∧
      (r = .ok () ∨ ∃ d i, (limiter.asked (job.clock p.now)).1.rounded = .after d ∧
        job.limits.wait p.now d = (q.now, some i) ∧ r = .error i.toError) := by
  unfold Limiter.asked
  rw [enter, limited] at entered
  dsimp only at entered
  split at entered
  · cases entered
    exact ⟨rfl, rfl, rfl, .inl rfl⟩
  · rename_i d granted
    obtain ⟨rest, ended⟩ := pause_cases entered
    rw [rest]
    refine ⟨rfl, rfl, rfl, ended.imp id ?_⟩
    rintro ⟨i, interrupted, failed⟩
    exact ⟨d, i, granted, interrupted, failed⟩

theorem report_of_unlimited (unlimited : p.limiter = none) (throttled : Bool) :
    job.report p throttled = p := by
  rw [report, unlimited]

theorem report_of_limited {limiter : Limiter Float} (limited : p.limiter = some limiter)
    (throttled : Bool) :
    job.report p throttled = { p with
      limiter := some (limiter.told (job.clock p.now) throttled).1
      trace := p.trace ++ [.sampled p.now throttled]
      log := p.log ++ (limiter.told (job.clock p.now) throttled).2.map LimiterEvent.entry } := by
  rw [report, limited]
  rfl

theorem backOff_cases {n : Nat} {e : Error} {r : Except Error Unit}
    (waited : job.backOff b n e p = (r, q)) :
    q.state = p.state ∧ q.limiter = p.limiter ∧
      q.trace = p.trace ++ [.delayed n (b.delay job.jitter n)] ∧
      (r = .ok () ∨ ∃ i, job.limits.wait p.now (b.delay job.jitter n) = (q.now, some i) ∧
        r = .error i.toError) := by
  obtain ⟨rest, ended⟩ := pause_cases waited
  rw [rest]
  exact ⟨rfl, rfl, rfl, ended⟩

/-! ### Waits that are not limited -/

theorem enter_ne_error {e : Error} (free : job.limits.Free) :
    job.enter p ≠ (.error e, q) := by
  intro entered
  cases limited : p.limiter with
  | none =>
    rw [enter_of_unlimited limited] at entered
    cases entered
  | some limiter =>
    obtain ⟨_, _, _, passed | ⟨d, i, _, interrupted, _⟩⟩ := enter_of_limited limited entered
    · cases passed
    · exact free.wait_ne _ _ interrupted

theorem backOff_ne_error {n : Nat} {e f : Error} (free : job.limits.Free) :
    job.backOff b n e p ≠ (.error f, q) := by
  intro waited
  obtain ⟨_, _, _, passed | ⟨i, interrupted, _⟩⟩ := backOff_cases waited
  · cases passed
  · exact free.wait_ne _ _ interrupted

end Job

/-- A run within the range of the clock starts with the first attempt, without a trace. -/
theorem Policy.runs_run {p : Policy} {now : Nat} {deadline : Option Nat}
    (known : p.deadline? now = some deadline) (call : Nat → σ → Attempt σ α)
    (clock : Nat → Instant) (jitter : Jitter) (timer : Timer) (cancellation : Option Nat)
    (state : σ) :
    let r := p.run call clock jitter timer cancellation now state
    ∃ q, Job.Runs ⟨call, clock, jitter, ⟨deadline, cancellation, timer⟩⟩ p.backoff (p.maxAttempts - 1) 1
        ⟨now, p.limiter, state, [], []⟩ r.result q ∧
      r.now = q.now ∧ r.policy.limiter = q.limiter ∧ r.state = q.state ∧ r.trace = q.trace := by
  simp only [run, known]
  exact ⟨_, Job.runs_attempts _ _ _, rfl, rfl, rfl, rfl⟩

/-! ### Operations with known outcomes -/

/-- An operation by the outcomes of its calls, counted from one.  When a call that starts at a time
ends and what it logs is free. -/
structure Script (α : Type) where
  outcome : Nat → Except Error α
  finish : (start n : Nat) → Nat
  log : (start n : Nat) → List Log.Entry

namespace Script

/-- The next call; the state counts those made before. -/
def call (script : Script α) (start made : Nat) : Attempt Nat α where
  result := (script.outcome (made + 1)).mapError .error
  finish := script.finish start (made + 1)
  state := made + 1
  log := script.log start (made + 1)

/-- Whether the service throttles a call. -/
def throttles (script : Script α) (n : Nat) : Bool :=
  match script.outcome n with
  | .ok _ => false
  | .error e => e.isThrottled

theorem eq_ok_of_mapError {outcome : Except Error α} {value : α}
    (result : .ok value = outcome.mapError Failure.error) : outcome = .ok value := by
  cases outcome with
  | ok other =>
    cases result
    rfl
  | error e => cases result

theorem eq_error_of_mapError {outcome : Except Error α} {failure : Failure}
    (result : .error failure = outcome.mapError Failure.error) :
    ∃ e, failure = .error e ∧ outcome = .error e := by
  cases outcome with
  | ok value => cases result
  | error e =>
    cases result
    exact ⟨e, rfl, rfl⟩

variable {script : Script α} {job : Job Nat α} {p q : Progress Nat}

theorem perform_cases {r : Except Failure α} (runs : job.call = script.call)
    (called : job.perform p = (r, q)) :
    r = (script.outcome (p.state + 1)).mapError .error ∧ q.state = p.state + 1 ∧
      q.limiter = p.limiter ∧ q.trace = p.trace ++ [.called p.now q.now] := by
  simp only [Job.perform, runs] at called
  cases called
  exact ⟨rfl, rfl, rfl, rfl⟩

end Script

end RequestSigning
