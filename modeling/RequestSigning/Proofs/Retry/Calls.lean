import RequestSigning.Proofs.Retry.Steps

/-!
# The calls of a run

Whatever a run waits for, its state goes only from call to call: `Job.calls_of_runs`.  Where no wait
is limited, `Job.tries_of_runs`: calls that can be tried again are followed by another one while
there are attempts left, and the last one decides the result.
-/

namespace RequestSigning

variable {σ α : Type}

/-- Calls one after the other, each by the time it starts at and the state it finds. -/
inductive Calls (call : Nat → σ → Attempt σ α) : σ → List (Nat × σ) → σ → Prop
  | nil (s : σ) : Calls call s [] s
  | cons {start : Nat} {s t : σ} {later : List (Nat × σ)}
      (rest : Calls call (call start s).state later t) : Calls call s ((start, s) :: later) t

theorem Calls.mem_of_ne_nil {call : Nat → σ → Attempt σ α} {s t : σ} {made : List (Nat × σ)}
    (calls : Calls call s made t) (some : made ≠ []) : ∃ start, (start, s) ∈ made := by
  cases calls with
  | nil => exact absurd rfl some
  | cons => exact ⟨_, List.mem_cons_self⟩

/-- A call fails with an error that can be tried again. -/
def Attempt.Retries (a : Attempt σ α) : Prop :=
  ∃ e, a.result = .error (.error e) ∧ e.retryable = true

namespace Job

variable {job : Job σ α} {b : Backoff} {p q : Progress σ}

/-- What a run returns whose last call, number `n`, has such a result. -/
def concluded (n : Nat) : Except Failure α → Except Failure α
  | .error (.error e) => .error (.error (if e.retryable then exhausted e n else e))
  | r => r

/-! ### Steps -/

theorem state_enter {r : Except Error Unit} (entered : job.enter p = (r, q)) :
    q.state = p.state := by
  cases limited : p.limiter with
  | none =>
    rw [enter_of_unlimited limited] at entered
    cases entered
    rfl
  | some limiter => exact (enter_of_limited limited entered).1

theorem state_report (job : Job σ α) (p : Progress σ) (throttled : Bool) :
    (job.report p throttled).state = p.state := by
  cases limited : p.limiter with
  | none => rw [report_of_unlimited limited]
  | some limiter => rw [report_of_limited limited]

/-- An attempt that is admitted makes one call on the state it finds. -/
theorem call_of_perform {entered : Progress σ} {r : Except Failure α}
    (enter : job.enter p = (.ok (), entered)) (called : job.perform entered = (r, q)) :
    ∃ start, (job.call start p.state).result = r ∧ q.state = (job.call start p.state).state := by
  rw [← state_enter enter]
  cases called
  exact ⟨entered.now, rfl, rfl⟩

theorem call_of_fails {e : Error} (fails : job.Fails p e q) :
    ∃ start, (job.call start p.state).result = .error (.error e) ∧
      q.state = (job.call start p.state).state := by
  obtain ⟨entered, called, enter, perform, rfl⟩ := fails
  rw [state_report]
  exact call_of_perform enter perform

/-! ### Runs -/

theorem calls_of_runs {left n : Nat} {r : Except Failure α} (run : job.Runs b left n p r q) :
    ∃ made, Calls job.call p.state made q.state ∧
      (job.limits.Free → made ≠ []) := by
  induction run with
  | refused entered =>
    exact ⟨[], state_enter entered ▸ .nil _, fun free => absurd entered (enter_ne_error free)⟩
  | succeeded entered called =>
    obtain ⟨start, _, state⟩ := call_of_perform entered called
    rw [state_report, state]
    exact ⟨[(start, _)], .cons (.nil _), fun _ => List.cons_ne_nil _ _⟩
  | overflowed entered called =>
    obtain ⟨start, _, state⟩ := call_of_perform entered called
    exact ⟨[(start, _)], .cons (state ▸ .nil _), fun _ => List.cons_ne_nil _ _⟩
  | failed fails | exhausted fails =>
    obtain ⟨start, _, state⟩ := call_of_fails fails
    exact ⟨[(start, _)], .cons (state ▸ .nil _), fun _ => List.cons_ne_nil _ _⟩
  | interrupted fails _ waited =>
    obtain ⟨start, _, state⟩ := call_of_fails fails
    rw [(backOff_cases waited).1, state]
    exact ⟨[(start, _)], .cons (.nil _), fun _ => List.cons_ne_nil _ _⟩
  | again fails _ waited _ ih =>
    obtain ⟨start, _, state⟩ := call_of_fails fails
    obtain ⟨made, calls, _⟩ := ih
    rw [(backOff_cases waited).1, state] at calls
    exact ⟨(start, _) :: made, .cons calls, fun _ => List.cons_ne_nil _ _⟩

/-- A run whose first call is not to be tried again ends with it, or is interrupted before. -/
theorem first_of_runs {left n : Nat} {r : Except Failure α} (run : job.Runs b left n p r q)
    (final : ∀ start, ¬(job.call start p.state).Retries) :
    (∃ start, q.state = (job.call start p.state).state ∧ r = (job.call start p.state).result) ∨
      q.state = p.state ∧ ¬job.limits.Free ∧ ∃ failure, r = .error failure := by
  have passed {e : Error} {t : Progress σ} (fails : job.Fails p e t) : e.retryable ≠ true := by
    intro retryable
    obtain ⟨start, failed, _⟩ := call_of_fails fails
    exact final start ⟨e, failed, retryable⟩
  cases run with
  | refused entered =>
    exact .inr ⟨state_enter entered, fun free => enter_ne_error free entered, _, rfl⟩
  | succeeded entered called =>
    obtain ⟨start, result, state⟩ := call_of_perform entered called
    exact .inl ⟨start, (state_report _ _ _).trans state, result.symm⟩
  | overflowed entered called =>
    obtain ⟨start, result, state⟩ := call_of_perform entered called
    exact .inl ⟨start, state, result.symm⟩
  | failed fails =>
    obtain ⟨start, result, state⟩ := call_of_fails fails
    exact .inl ⟨start, state, result.symm⟩
  | exhausted fails retryable | interrupted fails retryable | again fails retryable =>
    exact absurd retryable (passed fails)

/-- The calls of a run that is allowed `left` behind the first: those that are tried again and the
last one, which starts at `start` on the state `t`. -/
structure Tries (job : Job σ α) (left : Nat) (s : σ) (made : List (Nat × σ)) (start : Nat)
    (t : σ) : Prop where
  calls : Calls job.call s made t
  retried : ∀ c ∈ made, (job.call c.1 c.2).Retries
  allowed : made.length ≤ left
  exhausted : (job.call start t).Retries → made.length = left

theorem Tries.single {left start : Nat} {s : σ}
    (exhausted : (job.call start s).Retries → left = 0) : job.Tries left s [] start s where
  calls := .nil s
  retried := nofun
  allowed := Nat.zero_le left
  exhausted retries := (exhausted retries).symm

theorem Tries.cons {left first start : Nat} {s t : σ} {made : List (Nat × σ)}
    (retries : (job.call first s).Retries)
    (tries : job.Tries left (job.call first s).state made start t) :
    job.Tries (left + 1) s ((first, s) :: made) start t where
  calls := .cons tries.calls
  retried := List.forall_mem_cons.mpr ⟨retries, tries.retried⟩
  allowed := Nat.succ_le_succ tries.allowed
  exhausted last := congrArg Nat.succ (tries.exhausted last)

theorem tries_of_runs (free : job.limits.Free) {left n : Nat} {r : Except Failure α}
    (run : job.Runs b left n p r q) :
    ∃ made start s, job.Tries left p.state made start s ∧ q.state = (job.call start s).state ∧
      r = concluded (n + made.length) (job.call start s).result := by
  induction run with
  | refused entered => exact absurd entered (enter_ne_error free)
  | interrupted fails retryable waited => exact absurd waited (backOff_ne_error free)
  | succeeded entered called =>
    obtain ⟨start, result, state⟩ := call_of_perform entered called
    rw [state_report]
    refine ⟨[], start, _, .single ?_, state, by rw [result]; rfl⟩
    rintro ⟨e, failed, _⟩
    rw [result] at failed
    cases failed
  | overflowed entered called =>
    obtain ⟨start, result, state⟩ := call_of_perform entered called
    refine ⟨[], start, _, .single ?_, state, by rw [result]; rfl⟩
    rintro ⟨e, failed, _⟩
    rw [result] at failed
    cases failed
  | failed fails final =>
    obtain ⟨start, result, state⟩ := call_of_fails fails
    refine ⟨[], start, _, .single ?_, state, ?_⟩
    · rintro ⟨f, failed, retryable⟩
      rw [result] at failed
      cases failed
      rw [final] at retryable
      cases retryable
    · rw [result, concluded, final]
      rfl
  | exhausted fails retryable =>
    obtain ⟨start, result, state⟩ := call_of_fails fails
    refine ⟨[], start, _, .single fun _ => rfl, state, ?_⟩
    rw [result, concluded, retryable]
    rfl
  | again fails retryable waited _ ih =>
    obtain ⟨first, failed, state⟩ := call_of_fails fails
    obtain ⟨made, start, s, tries, last, result⟩ := ih
    rw [(backOff_cases waited).1, state] at tries
    refine ⟨(first, _) :: made, start, s, tries.cons ⟨_, failed, retryable⟩, last, ?_⟩
    rw [result, List.length_cons, Nat.add_right_comm, Nat.add_assoc]

end Job

/-- A run makes at least one call, unless something can end a wait before the first one. -/
theorem Policy.calls_run (p : Policy) (call : Nat → σ → Attempt σ α) (clock : Nat → Instant)
    (jitter : Jitter) (timer : Timer) (now : Nat) (state : σ) :
    ∃ made, Calls call state made (p.run call clock jitter timer none now state).state ∧
      (p.timeout = none → made ≠ []) := by
  cases known : p.deadline? now with
  | none =>
    refine ⟨[], by rw [run, known]; exact .nil _, fun untimed => ?_⟩
    rw [deadline?, untimed] at known
    cases known
  | some deadline =>
    obtain ⟨q, runs, _, _, left, _⟩ := runs_run known call clock jitter timer none state
    obtain ⟨made, calls, some⟩ := Job.calls_of_runs runs
    refine ⟨made, left ▸ calls, fun untimed => some ⟨?_, rfl⟩⟩
    rw [deadline?, untimed] at known
    cases known
    rfl

theorem Policy.run_of_final (p : Policy) {call : Nat → σ → Attempt σ α} {state : σ}
    (final : ∀ start, ¬(call start state).Retries) (clock : Nat → Instant) (jitter : Jitter)
    (timer : Timer) (now : Nat) :
    let r := p.run call clock jitter timer none now state
    (∃ start, r.state = (call start state).state ∧ r.result = (call start state).result) ∨
      r.state = state ∧ p.timeout ≠ none ∧ ∃ failure, r.result = .error failure := by
  cases known : p.deadline? now with
  | none =>
    refine .inr ⟨by rw [run, known], fun untimed => ?_, .timeOverflow, by rw [run, known]⟩
    rw [deadline?, untimed] at known
    cases known
  | some deadline =>
    obtain ⟨q, runs, _, _, left, _⟩ := runs_run known call clock jitter timer none state
    obtain ⟨start, last, result⟩ | ⟨kept, limited, failed⟩ := Job.first_of_runs runs final
    · exact .inl ⟨start, left.trans last, result⟩
    · refine .inr ⟨left.trans kept, fun untimed => limited ⟨?_, rfl⟩, failed⟩
      rw [deadline?, untimed] at known
      cases known
      rfl

end RequestSigning
