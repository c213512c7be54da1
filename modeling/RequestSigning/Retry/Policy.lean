import RequestSigning.Retry.Backoff
import RequestSigning.Retry.Limiter
import RequestSigning.Retry.Wait
import RequestSigning.Time.Format

/-!
# Retrying

A policy runs an operation until it succeeds, fails for good, or has used up its attempts.  Each
attempt is admitted by the limiter and its outcome reported to it, and each wait is bounded by the
deadline and the cancellation.  `Trace` tells what was done in which order.
-/

namespace RequestSigning

structure Policy where
  maxAttempts : Nat
  backoff : Backoff
  timeout : Option Duration
  limiter : Option (Limiter Float)

namespace Policy

/-- Four attempts, without limiter or timeout. -/
def default : Policy := ⟨4, .default, none, none⟩

/-- At least one attempt is made. -/
def withMaxAttempts (p : Policy) (n : Nat) : Policy := { p with maxAttempts := max n 1 }

end Policy

inductive Trace
  /-- Asked the limiter for one token. -/
  | acquired (time : Nat) (grant : Grant Duration)
  /-- Called the operation, from and until. -/
  | called (start finish : Nat)
  /-- Told the limiter whether the service throttled. -/
  | sampled (time : Nat) (throttled : Bool)
  /-- Drew a delay behind an attempt. -/
  | delayed (attempt : Nat) (delay : Duration)

/-- The outcome of one call of an operation, its end in time, and the state it leaves. -/
structure Attempt (σ α : Type) where
  result : Except Failure α
  finish : Nat
  state : σ
  log : List Log.Entry

structure Progress (σ : Type) where
  now : Nat
  limiter : Option (Limiter Float)
  state : σ
  trace : List Trace
  log : List Log.Entry

/-- What a run needs besides its policy: the operation, the clock of the limiter by elapsed
milliseconds, the jitter, and the limits of its waits. -/
structure Job (σ α : Type) where
  call : Nat → σ → Attempt σ α
  clock : Nat → Instant
  jitter : Jitter
  limits : Limits

namespace Job

variable {σ α : Type}

def pause (job : Job σ α) (p : Progress σ) (d : Duration) : Except Error Unit × Progress σ :=
  let ended := job.limits.wait p.now d
  (ended.2.elim (.ok ()) fun i => .error i.toError, { p with now := ended.1 })

def enter (job : Job σ α) (p : Progress σ) : Except Error Unit × Progress σ :=
  match p.limiter with
  | none => (.ok (), p)
  | some limiter =>
    let taken := limiter.take (RateNumber.ofInstant (job.clock p.now)) (RateNumber.ofInt 1)
    let grant := taken.1.rounded
    let p := { p with
      limiter := some taken.2.1
      trace := p.trace ++ [.acquired p.now grant]
      log := p.log ++ taken.2.2.map LimiterEvent.entry }
    match grant with
    | .atOnce => (.ok (), p)
    | .after d => job.pause p d

def perform (job : Job σ α) (p : Progress σ) : Except Failure α × Progress σ :=
  let done := job.call p.now p.state
  (done.result, { p with
    now := done.finish
    state := done.state
    trace := p.trace ++ [.called p.now done.finish]
    log := p.log ++ done.log })

def report (job : Job σ α) (p : Progress σ) (throttled : Bool) : Progress σ :=
  match p.limiter with
  | none => p
  | some limiter =>
    let sampled := limiter.sample (RateNumber.ofInstant (job.clock p.now)) throttled
    { p with
      limiter := some sampled.1
      trace := p.trace ++ [.sampled p.now throttled]
      log := p.log ++ sampled.2.map LimiterEvent.entry }

def exhausted (e : Error) (attempt : Nat) : Error :=
  e.withContext ("exceeded maximum number of retries, total attempts: " ++ toString attempt)

def retryEntry (attempt : Nat) (e : Error) (delay : Duration) : Log.Entry :=
  .debug ("attempt " ++ toString attempt ++ " failed with retryable error: " ++ e.message ++
    ", retrying in " ++ delay.text)

def backOff (job : Job σ α) (b : Backoff) (attempt : Nat) (e : Error) (p : Progress σ) :
    Except Error Unit × Progress σ :=
  let delay := b.delay job.jitter attempt
  job.pause { p with
    trace := p.trace ++ [.delayed attempt delay]
    log := p.log ++ [retryEntry attempt e delay] } delay

/-- Attempt number `attempt`, with `left` attempts after it. -/
def attempts (job : Job σ α) (b : Backoff) :
    (left attempt : Nat) → Progress σ → Except Failure α × Progress σ
  | left, attempt, p =>
    match job.enter p with
    | (.error e, p) => (.error (.error e), p)
    | (.ok (), p) =>
      match job.perform p with
      | (.ok value, p) => (.ok value, job.report p false)
      | (.error .timeOverflow, p) => (.error .timeOverflow, p)
      | (.error (.error e), p) =>
        let p := job.report p e.isThrottled
        if e.retryable then
          match left with
          | 0 => (.error (.error (exhausted e attempt)), p)
          | left + 1 =>
            match job.backOff b attempt e p with
            | (.error e, p) => (.error (.error e), p)
            | (.ok (), p) => attempts job b left (attempt + 1) p
        else (.error (.error e), p)

end Job

/-- What a run leaves; the limiter goes on in the policy. -/
structure Run (σ α : Type) where
  result : Except Failure α
  policy : Policy
  now : Nat
  state : σ
  trace : List Trace
  log : List Log.Entry

namespace Policy

variable {σ α : Type}

/-- Seconds from which on a timeout leaves the range of the clock. -/
def maxTimeoutSeconds : Nat := Nat.pow 2 63

/-- The deadline of a run that starts at `now`, if its timeout can be represented. -/
def deadline? (p : Policy) (now : Nat) : Option (Option Nat) :=
  match p.timeout with
  | none => some none
  | some d => if d.seconds < maxTimeoutSeconds then some (some (now + d.ceilMillis)) else none

/-- Run an operation from `now` on, until a cancellation if there is one. -/
def run (p : Policy) (call : Nat → σ → Attempt σ α) (clock : Nat → Instant) (jitter : Jitter)
    (timer : Timer) (cancellation : Option Nat) (now : Nat) (state : σ) : Run σ α :=
  match p.deadline? now with
  | none => ⟨.error .timeOverflow, p, now, state, [], []⟩
  | some deadline =>
    let job : Job σ α := ⟨call, clock, jitter, ⟨deadline, cancellation, timer⟩⟩
    let done := job.attempts p.backoff (p.maxAttempts - 1) 1 ⟨now, p.limiter, state, [], []⟩
    ⟨done.1, { p with limiter := done.2.limiter }, done.2.now, done.2.state, done.2.trace,
      done.2.log⟩

end Policy

def Run.starts {σ α : Type} (r : Run σ α) : List Nat :=
  r.trace.filterMap fun step =>
    match step with
    | .called start _ => some start
    | _ => none

end RequestSigning
