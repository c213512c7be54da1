import Mathlib.Order.Bounds.Basic
import RequestSigning.Proofs.Retry.Steps

/-!
# What a run comes to

Without a deadline or a cancellation no wait is interrupted.  `Job.stops_of_runs`: a run then stops
at the first call that succeeds or fails for good, or at the last one that is allowed, and
`run_isLeast`: that call decides the result.
-/

namespace RequestSigning

/-- What a trace tells but for the limiter. -/
inductive Work
  | call
  /-- Drew the delay behind an attempt. -/
  | delay (attempt : Nat)
  deriving DecidableEq

def Trace.work? : Trace → Option Work
  | .called _ _ => some .call
  | .delayed attempt _ => some (.delay attempt)
  | _ => none

/-- So many attempts, each with the delay behind it. -/
def Work.retried (made : Nat) : List Work :=
  (List.range' 1 made).flatMap fun n => [.call, .delay n]

theorem Work.retried_succ (made : Nat) :
    retried (made + 1) = retried made ++ [.call, .delay (made + 1)] := by
  rw [retried, List.range'_1_concat, List.flatMap_append, Nat.add_comm 1]
  rfl

def Progress.work {σ : Type} (p : Progress σ) : List Work := p.trace.filterMap Trace.work?

namespace Script

variable {α : Type}

/-- The call succeeds or fails for good. -/
def IsFinal (script : Script α) (n : Nat) : Prop :=
  ∀ e, script.outcome n = .error e → e.retryable = false

/-- The result of a run whose last call is number `n`. -/
def conclusion (script : Script α) (n : Nat) : Except Failure α :=
  match script.outcome n with
  | .ok value => .ok value
  | .error e => .error (.error (if e.retryable then Job.exhausted e n else e))

variable {script : Script α} {n : Nat}

theorem isFinal_of_ok {value : α} (outcome : script.outcome n = .ok value) :
    script.IsFinal n := by
  intro e failed
  rw [outcome] at failed
  cases failed

theorem isFinal_iff_of_error {e : Error} (outcome : script.outcome n = .error e) :
    script.IsFinal n ↔ e.retryable = false := by
  constructor
  · exact fun final => final e outcome
  · intro final f failed
    rw [outcome] at failed
    cases failed
    exact final

theorem conclusion_of_ok {value : α} (outcome : script.outcome n = .ok value) :
    script.conclusion n = .ok value := by
  rw [conclusion, outcome]

theorem conclusion_of_error {e : Error} (outcome : script.outcome n = .error e) :
    script.conclusion n = .error (.error (if e.retryable then Job.exhausted e n else e)) := by
  rw [conclusion, outcome]

end Script

namespace Job

variable {α : Type} {script : Script α} {job : Job Nat α} {b : Backoff} {p q : Progress Nat}

/-! ### Steps -/

theorem work_enter {r : Except Error Unit} (entered : job.enter p = (r, q)) :
    q.state = p.state ∧ q.work = p.work := by
  cases limited : p.limiter with
  | none =>
    rw [enter_of_unlimited limited] at entered
    cases entered
    exact ⟨rfl, rfl⟩
  | some limiter =>
    obtain ⟨state, _, trace, _⟩ := enter_of_limited limited entered
    refine ⟨state, ?_⟩
    rw [Progress.work, trace, List.filterMap_append]
    exact List.append_nil _

theorem work_report (job : Job Nat α) (p : Progress Nat) (throttled : Bool) :
    (job.report p throttled).state = p.state ∧ (job.report p throttled).work = p.work := by
  cases limited : p.limiter with
  | none =>
    rw [report_of_unlimited limited]
    exact ⟨rfl, rfl⟩
  | some limiter =>
    rw [report_of_limited limited]
    refine ⟨rfl, ?_⟩
    rw [Progress.work, List.filterMap_append]
    exact List.append_nil _

theorem work_perform {r : Except Failure α} (runs : job.call = script.call)
    (called : job.perform p = (r, q)) :
    r = (script.outcome (p.state + 1)).mapError .error ∧ q.state = p.state + 1 ∧
      q.work = p.work ++ [.call] := by
  obtain ⟨result, state, _, trace⟩ := Script.perform_cases runs called
  refine ⟨result, state, ?_⟩
  rw [Progress.work, trace, List.filterMap_append]
  rfl

theorem work_fails {e : Error} (runs : job.call = script.call) (fails : job.Fails p e q) :
    script.outcome (p.state + 1) = .error e ∧ q.state = p.state + 1 ∧
      q.work = p.work ++ [.call] := by
  obtain ⟨entered, called, enter, perform, rfl⟩ := fails
  obtain ⟨state, work⟩ := work_enter enter
  obtain ⟨result, performed, call⟩ := work_perform runs perform
  obtain ⟨told, told'⟩ := work_report job called e.isThrottled
  rw [state] at result performed
  obtain ⟨_, same, outcome⟩ := Script.eq_error_of_mapError result
  cases same
  exact ⟨outcome, told.trans performed, by rw [told', call, work]⟩

theorem work_backOff {n : Nat} {e : Error} {r : Except Error Unit}
    (waited : job.backOff b n e p = (r, q)) :
    q.state = p.state ∧ q.work = p.work ++ [.delay n] := by
  obtain ⟨state, _, trace, _⟩ := backOff_cases waited
  refine ⟨state, ?_⟩
  rw [Progress.work, trace, List.filterMap_append]
  rfl

/-! ### Runs whose waits are not limited -/

/-- The calls at which a run can stop that starts with call `n` and has `left` more. -/
def stops (script : Script α) (left n : Nat) : Set Nat :=
  {k | n ≤ k ∧ (k = n + left ∨ script.IsFinal k)}

theorem isLeast_stops {n left : Nat} (stop : left = 0 ∨ script.IsFinal n) :
    IsLeast (stops script left n) n := by
  refine ⟨⟨Nat.le_refl n, stop.imp ?_ id⟩, fun k member => member.1⟩
  rintro rfl
  rfl

/-- A call that can be repeated is none at which a run stops. -/
theorem isLeast_stops_succ {n left k : Nat} {e : Error} (outcome : script.outcome n = .error e)
    (retryable : e.retryable = true) (least : IsLeast (stops script left (n + 1)) k) :
    IsLeast (stops script (left + 1) n) k := by
  have same : stops script (left + 1) n = stops script left (n + 1) := by
    ext m
    constructor
    · rintro ⟨behind, stop⟩
      have later : n ≠ m := by
        rintro rfl
        obtain last | final := stop
        · omega
        · rw [(Script.isFinal_iff_of_error outcome).mp final] at retryable
          cases retryable
      exact ⟨by omega, stop.imp (by omega) id⟩
    · rintro ⟨behind, stop⟩
      exact ⟨by omega, stop.imp (by omega) id⟩
  rwa [same]

/-- A run that no wait ends stops at the first call that it can stop at, with its conclusion, and
has made every attempt before it with a delay behind it. -/
theorem stops_of_runs (runs : job.call = script.call) (free : job.limits.Free)
    {left n : Nat} {r : Except Failure α} (run : job.Runs b left n p r q)
    (number : n = p.state + 1) (before : p.work = Work.retried p.state) :
    IsLeast (stops script left n) q.state ∧ r = script.conclusion q.state ∧
      q.work = Work.retried (q.state - 1) ++ [.call] := by
  induction run with
  | refused entered => exact absurd entered (enter_ne_error free)
  | interrupted fails retryable waited => exact absurd waited (backOff_ne_error free)
  | @succeeded left n p q t value entered called =>
    obtain ⟨state, work⟩ := work_enter entered
    obtain ⟨result, performed, call⟩ := work_perform runs called
    obtain ⟨told, told'⟩ := work_report job t false
    rw [state, ← number] at result performed
    have outcome := Script.eq_ok_of_mapError result
    rw [told, told', performed, call, work, before, Script.conclusion_of_ok outcome, number,
      Nat.add_sub_cancel, ← number]
    exact ⟨isLeast_stops (.inr (Script.isFinal_of_ok outcome)), rfl, rfl⟩
  | overflowed entered called =>
    obtain ⟨result, _⟩ := work_perform runs called
    obtain ⟨_, other, _⟩ := Script.eq_error_of_mapError result
    cases other
  | @failed left n p q e fails final =>
    obtain ⟨outcome, state, work⟩ := work_fails runs fails
    rw [← number] at outcome state
    rw [state, work, before, Script.conclusion_of_error outcome, final, number,
      Nat.add_sub_cancel, ← number]
    exact ⟨isLeast_stops (.inr ((Script.isFinal_iff_of_error outcome).mpr final)), rfl, rfl⟩
  | @exhausted n p q e fails retryable =>
    obtain ⟨outcome, state, work⟩ := work_fails runs fails
    rw [← number] at outcome state
    rw [state, work, before, Script.conclusion_of_error outcome, retryable, number,
      Nat.add_sub_cancel, ← number]
    exact ⟨isLeast_stops (.inl rfl), rfl, rfl⟩
  | @again left n p q t u e r fails retryable waited rest ih =>
    obtain ⟨outcome, state, work⟩ := work_fails runs fails
    obtain ⟨paused, delay⟩ := work_backOff waited
    rw [← number] at outcome state
    have next : t.work = Work.retried t.state := by
      rw [delay, work, before, paused, state, number, Work.retried_succ, List.append_assoc]
      rfl
    obtain ⟨least, result, done⟩ := ih (by rw [paused, state]) next
    exact ⟨isLeast_stops_succ outcome retryable least, result, done⟩

end Job

/-- A run without a timeout makes as many calls as are allowed, or as many as it takes to one that
succeeds or fails for good if those are fewer.  It returns the outcome of the last call as it is,
and only adds the number of attempts to an error that could have been tried again.  The number of
an attempt stays within what is allowed. -/
theorem run_isLeast {α : Type} (p : Policy) (untimed : p.timeout = none) (maxAttempts : Nat)
    (script : Script α) (clock : Nat → Instant) (jitter : Jitter) (timer : Timer) (now : Nat) :
    let r := (p.withMaxAttempts maxAttempts).run script.call clock jitter timer none now 0
    IsLeast {k | 0 < k ∧ (k = max maxAttempts 1 ∨ script.IsFinal k)} r.state ∧
      r.result = (match script.outcome r.state with
        | .ok value => .ok value
        | .error e => .error (.error (if e.retryable then
            { e with context := e.context ++
                ["exceeded maximum number of retries, total attempts: " ++ toString r.state] }
          else e))) ∧
      r.trace.filterMap Trace.work? =
        (List.range' 1 (r.state - 1)).flatMap (fun n => [.call, .delay n]) ++ [.call] ∧
      (maxAttempts < UInt32.size → r.state < UInt32.size) := by
  intro r
  have deadline : (p.withMaxAttempts maxAttempts).deadline? now = some none := by
    rw [Policy.deadline?, Policy.withMaxAttempts, untimed]
  obtain ⟨q, runs, _, _, state, trace⟩ :=
    Policy.runs_run deadline script.call clock jitter timer none 0
  obtain ⟨least, result, work⟩ := Job.stops_of_runs rfl ⟨rfl, rfl⟩ runs rfl rfl
  have last : 1 + (max maxAttempts 1 - 1) = max maxAttempts 1 := by omega
  have allowed : Job.stops script ((p.withMaxAttempts maxAttempts).maxAttempts - 1) 1 =
      {k | 0 < k ∧ (k = max maxAttempts 1 ∨ script.IsFinal k)} := by
    rw [Job.stops, Policy.withMaxAttempts, last]
    rfl
  rw [allowed, ← state] at least
  have bound : r.state ≤ max maxAttempts 1 := least.2 ⟨by omega, .inl rfl⟩
  have range : UInt32.size = 4294967296 := rfl
  refine ⟨least, ?_, ?_, by omega⟩
  · rw [result, ← state]
    rfl
  · rw [trace]
    exact state ▸ work

/-- A service that throttles every call. -/
def busy : Script Unit where
  outcome _ := .error (.new .throttled "slow down")
  finish start _ := start + 5
  log _ _ := []

theorem run_isLeast_busy :
    let r := (Policy.default.withMaxAttempts 3).run busy.call (fun _ => .epoch) (fun _ d => d) timerEnd
      none 0 0
    Policy.default.timeout = none ∧ r.state = 3 ∧
      r.result = .error (.error { Error.new .throttled "slow down" with
        context := ["exceeded maximum number of retries, total attempts: 3"] }) := by
  intro r
  have untimed : Policy.default.timeout = none := rfl
  obtain ⟨⟨⟨_, stop⟩, _⟩, result, _⟩ :=
    run_isLeast .default untimed 3 busy (fun _ => .epoch) (fun _ d => d) timerEnd 0
  have third : r.state = 3 := by
    obtain last | final := stop
    · exact last
    · cases final _ rfl
  refine ⟨untimed, third, result.trans ?_⟩
  rw [third]
  rfl

end RequestSigning
