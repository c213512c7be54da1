import RequestSigning.Proofs.Retry.Outcome

/-!
# When attempts are made

An attempt behind a failed one waits for the delay that was drawn and then for its admission.  The
timers are exact: one goes off at the first whole millisecond not before the end of its time.
`Progress.Ready` is what holds before each attempt, and `run_timing`: no attempt is made before the
ends of both waits, nor, where each delay takes time, behind the deadline or the cancellation.
-/

namespace RequestSigning

variable {σ α : Type}

/-! ### Waits -/

/-- No timer goes off before its time is over. -/
theorem le_timerEnd (now : Nat) (d : Duration) :
    now * 1000000 + d.nanos ≤ timerEnd now d * 1000000 := by
  rw [timerEnd, Duration.ceilMillis]
  omega

theorem lt_timerEnd {d : Duration} (positive : 0 < d.nanos) (now : Nat) : now < timerEnd now d := by
  have enough := le_timerEnd now d
  omega

namespace Limits

def IsLimit (l : Limits) (t : Nat) : Prop := l.deadline = some t ∨ l.cancellation = some t

def Admits (l : Limits) (now : Nat) : Prop := ∀ t, l.IsLimit t → now ≤ t

theorem earlier_none {found : Nat × Option Interruption} {limit : Option Nat} {now finish : Nat}
    {kind : Interruption} (whole : earlier found limit now kind = (finish, none)) :
    found = (finish, none) ∧ ∀ t, limit = some t → finish ≤ max now t := by
  unfold earlier at whole
  split at whole
  · split at whole
    · cases whole
    · rename_i t late
      rw [whole] at late
      refine ⟨whole, fun u same => ?_⟩
      cases same
      omega
  · exact ⟨whole, nofun⟩

/-- A wait that nothing interrupts lasts as long as its timer, and no limit lies within it. -/
theorem wait_none {l : Limits} {now finish : Nat} {d : Duration}
    (whole : l.wait now d = (finish, none)) :
    finish = l.timer now d ∧ ∀ t, l.IsLimit t → finish ≤ max now t := by
  obtain ⟨inTime, cancelled⟩ := earlier_none whole
  obtain ⟨set, late⟩ := earlier_none inTime
  cases set
  exact ⟨rfl, fun t limit => limit.elim (late t) (cancelled t)⟩

theorem Admits.of_wait {l : Limits} {now finish : Nat} {d : Duration} (admits : l.Admits now)
    (whole : l.wait now d = (finish, none)) : l.Admits finish := by
  intro t limit
  have inside := (wait_none whole).2 t limit
  have before := admits t limit
  omega

theorem admits_of_wait {l : Limits} (exact : l.timer = timerEnd) {now finish : Nat} {d : Duration}
    (positive : 0 < d.nanos) (whole : l.wait now d = (finish, none)) : l.Admits finish := by
  intro t limit
  obtain ⟨set, inside⟩ := wait_none whole
  rw [exact] at set
  have before := lt_timerEnd positive now
  have within := inside t limit
  omega

end Limits

theorem Backoff.delay_pos {b : Backoff} (steady : b.jitter = false) (base : 0 < b.base.nanos)
    (cap : 0 < b.cap.nanos) (jitter : Jitter) (n : Nat) : 0 < (b.delay jitter n).nanos := by
  rw [Backoff.delay, steady, if_neg Bool.false_ne_true, Backoff.bound]
  split
  · rename_i d doubled
    have long : b.base.nanos * Nat.pow 2 (Nat.min (n - 1) 31) = d.nanos := by
      unfold Duration.mul? Duration.ofNanos? at doubled
      split at doubled
      · cases doubled
        rfl
      · cases doubled
    rw [Duration.nanos_min]
    exact Nat.lt_min.mpr ⟨long ▸ Nat.mul_pos base (Nat.pow_pos (by decide)), cap⟩
  · exact cap

/-! ### What a trace tells of the time -/

def Trace.call? : Trace → Option (Nat × Nat)
  | .called start finish => some (start, finish)
  | _ => none

def Trace.delay? : Trace → Option (Nat × Duration)
  | .delayed n d => some (n, d)
  | _ => none

def Trace.grant? : Trace → Option (Grant Duration)
  | .acquired _ grant => some grant
  | _ => none

/-- How long to wait for an admission, if there is a limiter that gives one. -/
def Grant.wait : Option (Grant Duration) → Duration
  | some (.after d) => d
  | _ => .zero

namespace Progress

def calls (p : Progress σ) : List (Nat × Nat) := p.trace.filterMap Trace.call?

def delays (p : Progress σ) : List (Nat × Duration) := p.trace.filterMap Trace.delay?

def grants (p : Progress σ) : List (Grant Duration) := p.trace.filterMap Trace.grant?

theorem tells_of_trace {p q : Progress σ} {added : List Trace}
    (trace : q.trace = p.trace ++ added) :
    q.calls = p.calls ++ added.filterMap Trace.call? ∧
      q.delays = p.delays ++ added.filterMap Trace.delay? ∧
      q.grants = p.grants ++ added.filterMap Trace.grant? := by
  unfold calls delays grants
  rw [trace]
  exact ⟨List.filterMap_append, List.filterMap_append, List.filterMap_append⟩

end Progress

/-- A call that ends at `finish` is followed, behind a delay and a wait, by one that starts at
`start`. -/
structure Ensues (limits : Limits) (finish : Nat) (delay wait : Duration) (start : Nat) : Prop where
  start_eq : start = timerEnd (timerEnd finish delay) wait
  admits : 0 < delay.nanos → limits.Admits start

theorem Ensues.le_start {limits : Limits} {finish start : Nat} {delay wait : Duration}
    (follows : Ensues limits finish delay wait start) :
    finish * 1000000 + delay.nanos + wait.nanos ≤ start * 1000000 :=
  calc
    _ ≤ timerEnd finish delay * 1000000 + wait.nanos :=
      Nat.add_le_add_right (le_timerEnd finish delay) _
    _ ≤ timerEnd (timerEnd finish delay) wait * 1000000 := le_timerEnd _ wait
    _ = start * 1000000 := by rw [follows.start_eq]

namespace Progress

/-- Each call but the first follows the one before it. -/
def Spaced (limits : Limits) (delay : Nat → Duration) (p : Progress σ) : Prop :=
  ∀ n s f s' f', p.calls[n]? = some (s, f) → p.calls[n + 1]? = some (s', f') →
    p.delays[n]? = some (n + 1, delay (n + 1)) ∧
      p.grants[n + 1]?.isSome = p.limiter.isSome ∧
      Ensues limits f (delay (n + 1)) (Grant.wait p.grants[n + 1]?) s'

/-- Behind so many calls as many admissions were asked for, if there is a limiter. -/
def Asked (p : Progress σ) : Prop :=
  p.grants.length = if p.limiter.isSome then p.calls.length else 0

/-- What holds before each attempt: the calls made are spaced, and the delay behind the last one is
over. -/
structure Ready (limits : Limits) (delay : Nat → Duration) (p : Progress σ) : Prop where
  spaced : p.Spaced limits delay
  asked : p.Asked
  drawn : p.delays = (List.range' 1 p.calls.length).map fun n => (n, delay n)
  waited : ∀ n s f, p.calls.length = n + 1 → p.calls[n]? = some (s, f) →
    p.now = timerEnd f (delay (n + 1)) ∧ (0 < (delay (n + 1)).nanos → limits.Admits p.now)

/-- Before the first attempt there is nothing to tell. -/
theorem ready_start {limits : Limits} {delay : Nat → Duration} {now : Nat}
    {limiter : Option (Limiter Float)} {s : σ} :
    Ready limits delay (⟨now, limiter, s, [], []⟩ : Progress σ) where
  spaced n s f s' f' first := by cases first
  asked := by cases limiter <;> rfl
  drawn := rfl
  waited n s f length := by cases length

/-- What holds behind the call of an attempt that began at `p`. -/
structure Called (limits : Limits) (delay : Nat → Duration) (p q : Progress σ) : Prop where
  spaced : q.Spaced limits delay
  asked : q.Asked
  calls : ∃ start, q.calls = p.calls ++ [(start, q.now)]
  delays : q.delays = p.delays

variable {limits : Limits} {delay : Nat → Duration} {p q : Progress σ}

theorem Called.length (called : p.Called limits delay q) : q.calls.length = p.calls.length + 1 := by
  obtain ⟨start, made⟩ := called.calls
  rw [made, List.length_append, List.length_singleton]

/-- An admission that was given stays the one of its attempt. -/
theorem getElem?_grants_append {grants added : List (Grant Duration)} {n : Nat} {limited : Bool}
    (given : grants[n]?.isSome = limited) (free : limited = false → added = []) :
    (grants ++ added)[n]? = grants[n]? := by
  cases limited with
  | false => rw [free rfl, List.append_nil]
  | true =>
    obtain ⟨_, found⟩ := Option.isSome_iff_exists.mp given
    exact List.getElem?_append_left (List.getElem?_eq_some_iff.mp found).1

/-- The admission of the next attempt, if there is a limiter that gives one. -/
theorem getElem?_grants_next (asked : p.Asked) {grant : Option (Grant Duration)}
    (given : grant.isSome = p.limiter.isSome) :
    (p.grants ++ grant.toList)[p.calls.length]? = grant := by
  unfold Asked at asked
  rw [← given] at asked
  cases grant with
  | none => rw [List.length_eq_zero_iff.mp asked]; rfl
  | some grant =>
    rw [← show p.grants.length = p.calls.length from asked]
    exact List.getElem?_concat_length

theorem Spaced.of_calls (spaced : p.Spaced limits delay) (calls : q.calls = p.calls)
    (limiter : q.limiter.isSome = p.limiter.isSome)
    {drawn : List (Nat × Duration)} (delays : q.delays = p.delays ++ drawn)
    {given : List (Grant Duration)} (grants : q.grants = p.grants ++ given)
    (free : p.limiter.isSome = false → given = []) : q.Spaced limits delay := by
  intro n s f s' f' first second
  rw [calls] at first second
  obtain ⟨drew, granted, follows⟩ := spaced n s f s' f' first second
  rw [delays, grants, getElem?_grants_append granted free, limiter]
  exact ⟨List.getElem?_append_left (List.getElem?_eq_some_iff.mp drew).1 ▸ drew, granted, follows⟩

end Progress

namespace Job

variable {job : Job σ α} {b : Backoff} {p q : Progress σ}

/-! ### Steps -/

theorem pause_ok {d : Duration} (paused : job.pause p d = (.ok (), q)) :
    q = { p with now := q.now } ∧ job.limits.wait p.now d = (q.now, none) := by
  unfold pause at paused
  cases ended : job.limits.wait p.now d with
  | mk finish interruption =>
    rw [ended] at paused
    cases interruption with
    | none =>
      cases paused
      exact ⟨rfl, rfl⟩
    | some i => cases paused

theorem backOff_ok {n : Nat} {e : Error} (waited : job.backOff b n e p = (.ok (), q)) :
    q.limiter = p.limiter ∧ q.trace = p.trace ++ [.delayed n (b.delay job.jitter n)] ∧
      job.limits.wait p.now (b.delay job.jitter n) = (q.now, none) := by
  obtain ⟨rest, whole⟩ := pause_ok waited
  rw [rest]
  exact ⟨rfl, rfl, whole⟩

theorem isSome_of_enter {r : Except Error Unit} (entered : job.enter p = (r, q)) :
    q.limiter.isSome = p.limiter.isSome := by
  cases limited : p.limiter with
  | none =>
    rw [enter_of_unlimited limited] at entered
    cases entered
    rw [limited]
  | some limiter =>
    obtain ⟨_, kept, _⟩ := enter_of_limited limited entered
    rw [kept]
    rfl

/-- An attempt that is let in has waited for its admission, if there is a limiter to give one. -/
theorem enter_ok (exact : job.limits.timer = timerEnd) (entered : job.enter p = (.ok (), q)) :
    ∃ grant, grant.isSome = p.limiter.isSome ∧
      q.trace = p.trace ++ (grant.map (Trace.acquired p.now)).toList ∧
      q.now = timerEnd p.now (Grant.wait grant) ∧
      (job.limits.Admits p.now → job.limits.Admits q.now) := by
  cases limited : p.limiter with
  | none =>
    rw [enter_of_unlimited limited] at entered
    cases entered
    exact ⟨none, rfl, (List.append_nil _).symm, rfl, id⟩
  | some limiter =>
    rw [enter, limited] at entered
    dsimp only at entered
    split at entered
    · rename_i granted
      cases entered
      exact ⟨some .atOnce, rfl, by rw [granted]; rfl, rfl, id⟩
    · rename_i d granted
      obtain ⟨rest, whole⟩ := pause_ok entered
      rw [rest]
      refine ⟨some (.after d), rfl, by rw [granted]; rfl, ?_, fun admits => admits.of_wait whole⟩
      rw [(Limits.wait_none whole).1, exact]
      rfl

theorem perform_trace {r : Except Failure α} (called : job.perform p = (r, q)) :
    q.limiter = p.limiter ∧ q.trace = p.trace ++ [.called p.now q.now] := by
  cases called
  exact ⟨rfl, rfl⟩

theorem report_frame (job : Job σ α) (p : Progress σ) (throttled : Bool) :
    (job.report p throttled).now = p.now ∧
      (job.report p throttled).limiter.isSome = p.limiter.isSome ∧
      (job.report p throttled).calls = p.calls ∧ (job.report p throttled).delays = p.delays ∧
      (job.report p throttled).grants = p.grants := by
  cases limited : p.limiter with
  | none =>
    rw [report_of_unlimited limited, limited]
    exact ⟨rfl, rfl, rfl, rfl, rfl⟩
  | some limiter =>
    rw [report_of_limited limited]
    refine ⟨rfl, rfl, ?_, ?_, ?_⟩ <;> exact List.filterMap_append.trans (List.append_nil _)

variable {delay : Nat → Duration}

theorem called_of_ready (exact : job.limits.timer = timerEnd) {r : Except Failure α}
    {t : Progress σ} (ready : p.Ready job.limits delay) (entered : job.enter p = (.ok (), q))
    (called : job.perform q = (r, t)) : p.Called job.limits delay t := by
  obtain ⟨grant, given, asked, admitted, admits⟩ := enter_ok exact entered
  obtain ⟨limiter, call⟩ := perform_trace called
  have limited : t.limiter.isSome = p.limiter.isSome :=
    limiter ▸ isSome_of_enter entered
  have told : t.calls = p.calls ++ [(q.now, t.now)] ∧ t.delays = p.delays ∧
      t.grants = p.grants ++ grant.toList := by
    rw [asked, List.append_assoc] at call
    obtain ⟨calls, delays, grants⟩ := Progress.tells_of_trace call
    rw [calls, delays, grants]
    cases grant <;> exact ⟨rfl, List.append_nil _, rfl⟩
  obtain ⟨calls, delays, grants⟩ := told
  have free : p.limiter.isSome = false → grant.toList = [] := by
    intro unlimited
    rw [unlimited] at given
    cases grant with
    | none => rfl
    | some _ => cases given
  refine ⟨?_, ?_, ⟨q.now, calls⟩, delays⟩
  · intro n s f s' f' first second
    rw [calls] at first second
    have bound := (List.getElem?_eq_some_iff.mp second).1
    rw [List.length_append, List.length_singleton] at bound
    rw [List.getElem?_append_left (by omega)] at first
    rw [delays, grants, limited]
    by_cases earlier : n + 1 < p.calls.length
    · rw [List.getElem?_append_left earlier] at second
      obtain ⟨drew, granted, follows⟩ := ready.spaced n s f s' f' first second
      rw [Progress.getElem?_grants_append granted free]
      exact ⟨drew, granted, follows⟩
    · have last : p.calls.length = n + 1 := by omega
      obtain ⟨now, within⟩ := ready.waited n s f last first
      rw [← last, List.getElem?_concat_length, Option.some.injEq] at second
      cases second
      rw [← last, Progress.getElem?_grants_next ready.asked given, last]
      refine ⟨?_, given, by rw [admitted, now], fun positive => admits (within positive)⟩
      rw [ready.drawn, last]
      simp [Nat.add_comm 1]
  · rw [Progress.Asked, calls, grants, limited, ← given, List.length_append, ready.asked, ← given]
    cases grant <;> simp

theorem called_report {start : Progress σ} (called : start.Called job.limits delay p)
    (throttled : Bool) : start.Called job.limits delay (job.report p throttled) := by
  obtain ⟨now, limiter, calls, delays, grants⟩ := report_frame job p throttled
  obtain ⟨begun, made⟩ := called.calls
  refine ⟨?_, ?_, ⟨begun, by rw [calls, now, made]⟩, delays.trans called.delays⟩
  · have undrawn : (job.report p throttled).delays = p.delays ++ [] := by
      rw [delays, List.append_nil]
    have ungiven : (job.report p throttled).grants = p.grants ++ [] := by
      rw [grants, List.append_nil]
    exact called.spaced.of_calls calls limiter undrawn ungiven fun _ => rfl
  · rw [Progress.Asked, calls, limiter, grants]
    exact called.asked

theorem called_of_fails (exact : job.limits.timer = timerEnd) {e : Error}
    (ready : p.Ready job.limits delay) (fails : job.Fails p e q) :
    p.Called job.limits delay q := by
  obtain ⟨entered, called, enter, perform, rfl⟩ := fails
  exact called_report (called_of_ready exact ready enter perform) e.isThrottled

/-- The delay behind a failed attempt makes ready for the next one. -/
theorem ready_of_backOff (exact : job.limits.timer = timerEnd) {e : Error} {t : Progress σ}
    (ready : p.Ready job.limits (b.delay job.jitter))
    (called : p.Called job.limits (b.delay job.jitter) q)
    (waited : job.backOff b (p.calls.length + 1) e q = (.ok (), t)) :
    t.Ready job.limits (b.delay job.jitter) ∧ t.calls = q.calls := by
  obtain ⟨limiter, trace, whole⟩ := backOff_ok waited
  obtain ⟨start, made⟩ := called.calls
  obtain ⟨calls, delays, grants⟩ := Progress.tells_of_trace trace
  replace calls : t.calls = q.calls := calls.trans (List.append_nil _)
  refine ⟨⟨?_, ?_, ?_, ?_⟩, calls⟩
  · exact called.spaced.of_calls calls (congrArg _ limiter) delays grants fun _ => rfl
  · rw [Progress.Asked, calls, limiter, grants.trans (List.append_nil _)]
    exact called.asked
  · rw [delays, called.delays, ready.drawn, calls, made, List.length_append, List.length_singleton,
      List.range'_1_concat, List.map_append, Nat.add_comm 1]
    rfl
  · intro n s f length last
    rw [calls, made] at length last
    have number : p.calls.length = n := by simpa using length
    rw [← number, List.getElem?_concat_length, Option.some.injEq] at last
    cases last
    rw [number] at whole
    refine ⟨?_, fun positive => Limits.admits_of_wait exact positive whole⟩
    rw [(Limits.wait_none whole).1, exact]

/-! ### Runs -/

theorem isSome_of_fails {e : Error} (fails : job.Fails p e q) :
    q.limiter.isSome = p.limiter.isSome := by
  obtain ⟨entered, called, enter, perform, rfl⟩ := fails
  rw [(report_frame job called e.isThrottled).2.1, (perform_trace perform).1, isSome_of_enter enter]

theorem isSome_of_runs {left n : Nat} {r : Except Failure α} (run : job.Runs b left n p r q) :
    q.limiter.isSome = p.limiter.isSome := by
  induction run with
  | refused entered => exact isSome_of_enter entered
  | succeeded entered called =>
    rw [(report_frame job _ false).2.1, (perform_trace called).1, isSome_of_enter entered]
  | overflowed entered called => rw [(perform_trace called).1, isSome_of_enter entered]
  | failed fails final => exact isSome_of_fails fails
  | exhausted fails retryable => exact isSome_of_fails fails
  | interrupted fails retryable waited =>
    rw [(backOff_cases waited).2.1, isSome_of_fails fails]
  | again fails retryable waited rest ih =>
    rw [ih, (backOff_cases waited).2.1, isSome_of_fails fails]

/-- The run was given up in one of the waits behind a call that ended at `finish`. -/
def GivenUp (limits : Limits) (result : Except Failure α) (now finish : Nat) (delay : Duration)
    (grant : Option (Grant Duration)) : Prop :=
  ∃ i waiting d,
    (waiting = finish ∧ d = delay ∨ waiting = timerEnd finish delay ∧ grant = some (.after d)) ∧
      limits.wait waiting d = (now, some i) ∧ result = .error (.error i.toError)

/-- What a run leaves: spaced calls, and behind a failed one that could be tried again a wait that
was given up. -/
structure Stopped (script : Script α) (limits : Limits) (delay : Nat → Duration) (last : Nat)
    (r : Except Failure α) (q : Progress Nat) : Prop where
  spaced : q.Spaced limits delay
  given_up : ∀ n s f e, q.calls.length = n + 1 → q.calls[n]? = some (s, f) →
    script.outcome (n + 1) = .error e → e.retryable = true → n + 1 < last →
      GivenUp limits r q.now f (delay (n + 1)) q.grants[n + 1]?

variable {script : Script α} {job : Job Nat α} {p q : Progress Nat}

theorem stopped_of_called {limits : Limits} {delay : Nat → Duration} {last : Nat}
    {r : Except Failure α} (called : p.Called limits delay q) (made : p.state = p.calls.length)
    (final : ∀ e, script.outcome (p.state + 1) = .error e → e.retryable = true →
      last ≤ p.calls.length + 1) : Stopped script limits delay last r q := by
  refine ⟨called.spaced, fun n s f e length _ outcome retryable more => ?_⟩
  have number : p.calls.length = n := by
    rw [called.length] at length
    omega
  rw [← number, ← made] at outcome
  have bound := final e outcome retryable
  omega

theorem stopped_of_refused {e : Error} {last : Nat}
    (ready : p.Ready job.limits (b.delay job.jitter)) (entered : job.enter p = (.error e, q)) :
    Stopped script job.limits (b.delay job.jitter) last (.error (.error e)) q := by
  cases limited : p.limiter with
  | none =>
    rw [enter_of_unlimited limited] at entered
    cases entered
  | some limiter =>
    obtain ⟨_, kept, trace, passed | ⟨d, i, granted, interrupted, same⟩⟩ :=
      enter_of_limited limited entered
    · cases passed
    cases same
    rw [granted] at trace
    obtain ⟨calls, delays, grants⟩ := Progress.tells_of_trace trace
    replace calls : q.calls = p.calls := calls.trans (List.append_nil _)
    have present : p.limiter.isSome = true := by rw [limited]; rfl
    refine ⟨?_, fun n s f e length call _ _ _ => ⟨i, p.now, d, .inr ⟨?_, ?_⟩, interrupted, rfl⟩⟩
    · refine ready.spaced.of_calls calls (by rw [kept, present]; rfl) delays grants ?_
      intro unlimited
      rw [present] at unlimited
      cases unlimited
    · rw [calls] at length call
      exact (ready.waited n s f length call).1
    · rw [calls] at length
      rw [grants, ← length]
      have given : (some (Grant.after d)).isSome = p.limiter.isSome := present.symm
      exact Progress.getElem?_grants_next ready.asked given

theorem stopped_of_interrupted {e f : Error} {last : Nat} {t : Progress Nat}
    (called : p.Called job.limits (b.delay job.jitter) q)
    (waited : job.backOff b (p.calls.length + 1) e q = (.error f, t)) :
    Stopped script job.limits (b.delay job.jitter) last (.error (.error f)) t := by
  obtain ⟨_, limiter, trace, passed | ⟨i, interrupted, same⟩⟩ := backOff_cases waited
  · cases passed
  cases same
  obtain ⟨calls, delays, grants⟩ := Progress.tells_of_trace trace
  replace calls : t.calls = q.calls := calls.trans (List.append_nil _)
  refine ⟨?_, fun n s f e length call _ _ _ => ?_⟩
  · exact called.spaced.of_calls calls (congrArg _ limiter) delays grants fun _ => rfl
  · obtain ⟨start, made⟩ := called.calls
    rw [calls, made] at length call
    have number : p.calls.length = n := by simpa using length
    rw [← number, List.getElem?_concat_length, Option.some.injEq] at call
    cases call
    rw [number] at interrupted
    exact ⟨i, q.now, _, .inl ⟨rfl, rfl⟩, interrupted, rfl⟩

theorem stopped_of_runs (exact : job.limits.timer = timerEnd) (runs : job.call = script.call)
    {left n : Nat} {r : Except Failure α} (run : job.Runs b left n p r q)
    (ready : p.Ready job.limits (b.delay job.jitter)) (made : p.state = p.calls.length) (number : n = p.calls.length + 1) :
    Stopped script job.limits (b.delay job.jitter) (left + n) r q := by
  induction run with
  | refused entered => exact stopped_of_refused ready entered
  | @succeeded left n p q t value entered called =>
    obtain ⟨state, _⟩ := work_enter entered
    obtain ⟨result, _⟩ := work_perform runs called
    rw [state] at result
    have outcome := Script.eq_ok_of_mapError result
    refine stopped_of_called (called_report (called_of_ready exact ready entered called) false) made ?_
    intro e failed
    rw [outcome] at failed
    cases failed
  | overflowed entered called =>
    obtain ⟨result, _⟩ := work_perform runs called
    obtain ⟨_, other, _⟩ := Script.eq_error_of_mapError result
    cases other
  | failed fails final =>
    obtain ⟨outcome, _⟩ := work_fails runs fails
    refine stopped_of_called (called_of_fails exact ready fails) made fun e failed retryable => ?_
    rw [outcome] at failed
    cases failed
    rw [final] at retryable
    cases retryable
  | exhausted fails retryable =>
    exact stopped_of_called (called_of_fails exact ready fails) made fun _ _ _ => by omega
  | interrupted fails retryable waited =>
    rw [number] at waited
    exact stopped_of_interrupted (called_of_fails exact ready fails) waited
  | @again left n p q t u e r fails retryable waited rest ih =>
    have called := called_of_fails exact ready fails
    obtain ⟨_, performed, _⟩ := work_fails runs fails
    obtain ⟨state, _⟩ := work_backOff waited
    rw [number] at waited
    obtain ⟨next, calls⟩ := ready_of_backOff exact ready called waited
    have length := called.length
    have again := ih next (by rw [state, performed, calls, length, made])
      (by rw [calls, length, number])
    rwa [show left + (n + 1) = left + 1 + n by omega] at again

end Job

theorem Policy.deadline_eq {p : Policy} {now : Nat} {deadline : Option Nat} {t : Duration}
    (known : p.deadline? now = some deadline) (timeout : t ∈ p.timeout) :
    deadline = some (now + t.ceilMillis) := by
  rw [Policy.deadline?, show p.timeout = some t from timeout] at known
  dsimp only at known
  split at known <;> cases known
  rfl

/-- Attempt `n + 2` starts when the delay behind attempt `n + 1` and then the wait for the admission
are over, and not before both have lasted as long as they should.  Where each delay takes time, it
starts before the deadline and before the cancellation, unless a wait ends in the very millisecond
of one.  An attempt that could be tried again but is not was the last one that was allowed, or one
of these waits was given up for want of time. -/
theorem run_timing (p : Policy) (script : Script α) (clock : Nat → Instant) (jitter : Jitter)
    (cancellation : Option Nat) (now : Nat) :
    let r := p.run script.call clock jitter timerEnd cancellation now 0
    let limits : Limits := ⟨(p.deadline? now).join, cancellation, timerEnd⟩
    let calls := r.trace.filterMap Trace.call?
    let grants := r.trace.filterMap Trace.grant?
    let delay := p.backoff.delay jitter
    (∀ n s f s' f', calls[n]? = some (s, f) → calls[n + 1]? = some (s', f') →
      (r.trace.filterMap Trace.delay?)[n]? = some (n + 1, delay (n + 1)) ∧
      grants[n + 1]?.isSome = p.limiter.isSome ∧
      s' = timerEnd (timerEnd f (delay (n + 1))) (Grant.wait grants[n + 1]?) ∧
      f * 1000000 + (delay (n + 1)).nanos + (Grant.wait grants[n + 1]?).nanos ≤ s' * 1000000 ∧
      (p.backoff.jitter = false → 0 < p.backoff.base.nanos → 0 < p.backoff.cap.nanos →
        (∀ t ∈ p.timeout, s' ≠ now + t.ceilMillis → s' * 1000000 < now * 1000000 + t.nanos) ∧
        ∀ t ∈ cancellation, s' ≠ t → s' < t)) ∧
    ∀ n s f e, calls[n]? = some (s, f) → script.outcome (n + 1) = .error e → e.retryable = true →
      n + 1 < p.maxAttempts →
      n + 1 < calls.length ∨ calls.length = n + 1 ∧
        (∃ e, r.result = .error (.error e) ∧ e.kind = .timeout) ∧
        Job.GivenUp limits r.result r.now f (delay (n + 1)) grants[n + 1]? := by
  intro r limits calls grants delay
  cases known : p.deadline? now with
  | none =>
    -- A timeout beyond the range of the clock ends the run before its first call.
    have none : calls = [] := by
      simp only [calls, r, Policy.run, known]
      rfl
    rw [none]
    constructor
    · intro n s f s' f' first
      cases first
    · intro n s f e first
      cases first
  | some deadline =>
    obtain ⟨q, runs, time, _, _, trace⟩ :=
      Policy.runs_run known script.call clock jitter timerEnd cancellation 0
    have stopped := Job.stopped_of_runs rfl rfl runs Progress.ready_start rfl rfl
    have limited := Job.isSome_of_runs runs
    have within : limits = ⟨deadline, cancellation, timerEnd⟩ := by
      simp only [limits, known]
      rfl
    have called : calls = q.calls := congrArg (List.filterMap Trace.call?) trace
    have granted : grants = q.grants := congrArg (List.filterMap Trace.grant?) trace
    have drawn : r.trace.filterMap Trace.delay? = q.delays :=
      congrArg (List.filterMap Trace.delay?) trace
    rw [called, granted, drawn, within]
    refine ⟨fun n s f s' f' first second => ?_, fun n s f e call outcome retryable more => ?_⟩
    · obtain ⟨drew, given, follows⟩ := stopped.spaced n s f s' f' first second
      refine ⟨drew, given.trans limited, follows.start_eq, follows.le_start,
        fun steady base cap => ?_⟩
      have admits := follows.admits (Backoff.delay_pos steady base cap jitter (n + 1))
      refine ⟨fun t timeout apart => ?_, fun t cancelled apart => ?_⟩
      · have bound := admits _ (.inl (Policy.deadline_eq known timeout))
        rw [Duration.ceilMillis] at bound apart
        omega
      · have bound := admits t (.inr cancelled)
        omega
    · have made := (List.getElem?_eq_some_iff.mp call).1
      refine (Nat.lt_or_ge (n + 1) q.calls.length).imp id fun all => ?_
      have length : q.calls.length = n + 1 := by omega
      have ended := stopped.given_up n s f e length call outcome retryable (by omega)
      rw [← time] at ended
      obtain ⟨i, _, _, _, _, result⟩ := id ended
      exact ⟨length, ⟨i.toError, result, i.kind_toError⟩, ended⟩

/-- A service that is unavailable twice; each call takes five milliseconds. -/
def recovering : Script Unit where
  outcome n :=
    if n ≤ 2 then .error ((Error.new .unexpected "unavailable").setRetryable true) else .ok ()
  finish start _ := start + 5
  log _ _ := []

/-- Delays from one and a half milliseconds up to five, with a timeout of so many milliseconds. -/
def hurried (timeout : Nat) : Policy where
  maxAttempts := 4
  backoff := ⟨⟨1500000, by decide⟩, ⟨5000000, by decide⟩, false⟩
  timeout := some (.ofNanosClamped (timeout * 1000000))
  limiter := none

/-- With twenty milliseconds the third call succeeds, and with six there is time for one. -/
theorem run_timing_recovering :
    let run timeout :=
      (hurried timeout).run recovering.call (fun _ => .epoch) (fun _ d => d) timerEnd (some 50) 0 0
    (run 20).trace.filterMap Trace.call? = [(0, 5), (7, 12), (15, 20)] ∧
      12 * 1000000 + 3000000 + 0 ≤ 15 * 1000000 ∧ 15 * 1000000 < 0 * 1000000 + 20000000 ∧ 15 < 50 ∧
      (run 6).trace.filterMap Trace.call? = [(0, 5)] ∧
      ∃ e, (run 6).result = .error (.error e) ∧ e.kind = .timeout := by
  intro run
  have calls : (run 20).trace.filterMap Trace.call? = [(0, 5), (7, 12), (15, 20)] := rfl
  have single : (run 6).trace.filterMap Trace.call? = [(0, 5)] := rfl
  obtain ⟨_, _, _, spaced, inTime⟩ :=
    (run_timing (hurried 20) recovering (fun _ => .epoch) (fun _ d => d) (some 50) 0).1
      1 7 12 15 20 rfl rfl
  obtain ⟨deadline, cancelled⟩ := inTime rfl (by decide) (by decide)
  have stopped := (run_timing (hurried 6) recovering (fun _ => .epoch) (fun _ d => d) (some 50) 0).2
    0 0 5 _ rfl rfl rfl (by decide)
  refine ⟨calls, spaced, deadline _ rfl (by decide), cancelled _ rfl (by decide), single, ?_⟩
  obtain more | ⟨_, timeout, _⟩ := stopped
  · exact absurd more (by decide)
  · exact timeout

end RequestSigning
