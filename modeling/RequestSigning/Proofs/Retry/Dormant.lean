import RequestSigning.Retry.Limiter

/-!
# A limiter that no one has throttled

Until the first throttled sample nothing is taken from the bucket, and a cost that is none is never
taken from it.  So `history_remaining`: a history without these calls is what is left of the history
with them.  Nothing is asked of the numbers.
-/

namespace RequestSigning

open RateNumber

/-- What is asked of a limiter. -/
inductive LimiterCall (α : Type)
  | token
  | acquire (cost : α)
  | sample (throttled : Bool)

inductive LimiterAnswer (α : Type)
  | granted (grant : Grant α)
  | refused
  | rates (measuredRate fillRate : α)

/-- A call at a reading of the clock, its answer, and what was reported on the way. -/
structure LimiterEntry (α : Type) where
  now : α
  call : LimiterCall α
  answer : LimiterAnswer α
  events : List (LimiterEvent α)

namespace LimiterCall

variable {α : Type}

def isSample : LimiterCall α → Bool
  | .sample _ => true
  | _ => false

/-- A sample of a request that the service throttled. -/
def throttles : LimiterCall α → Bool
  | .sample throttled => throttled
  | _ => false

/-- A request cannot cost this much. -/
def isBadCost [RateNumber α] : LimiterCall α → Bool
  | .acquire cost => !isCost cost
  | _ => false

/-- What is left of a run: before the first throttled sample the samples, and from there on all but
the requests that cannot cost what they are said to. -/
def remaining [RateNumber α] {β : Type} (call : β → LimiterCall α) (run : List β) : List β :=
  (run.takeWhile fun x => !(call x).throttles).filter (fun x => (call x).isSample) ++
    (run.dropWhile fun x => !(call x).throttles).filter (fun x => !(call x).isBadCost)

end LimiterCall

namespace Limiter

open LimiterCall

variable {α : Type} [RateNumber α] {s : Limiter α} {calls : List (α × LimiterCall α)}

def granted (taken : Grant α × Limiter α × List (LimiterEvent α)) :
    LimiterAnswer α × Limiter α × List (LimiterEvent α) :=
  (.granted taken.1, taken.2)

/-- Answer a call; one token is asked for without a look at its cost. -/
def respond (s : Limiter α) (now : α) :
    LimiterCall α → LimiterAnswer α × Limiter α × List (LimiterEvent α)
  | .token => granted (s.take now (ofInt 1))
  | .acquire cost => ((s.acquire? now cost).map granted).getD (.refused, s, [])
  | .sample throttled =>
    let next := s.sample now throttled
    (.rates next.1.measuredRate next.1.fillRate, next)

def afterCalls (s : Limiter α) : List (α × LimiterCall α) → Limiter α
  | [] => s
  | (now, call) :: rest => (s.respond now call).2.1.afterCalls rest

def history (s : Limiter α) : List (α × LimiterCall α) → List (LimiterEntry α)
  | [] => []
  | (now, call) :: rest =>
    let response := s.respond now call
    ⟨now, call, response.1, response.2.2⟩ :: response.2.1.history rest

/-! ### One call -/

theorem enabled_refill (s : Limiter α) (now : α) : (s.refill now).enabled = s.enabled := by
  unfold refill
  split <;> rfl

theorem enabled_take (s : Limiter α) (now amount : α) :
    (s.take now amount).2.1.enabled = s.enabled := by
  unfold take
  split
  · dsimp only
    split <;> exact s.enabled_refill now
  · rfl

theorem enabled_measure (s : Limiter α) (now : α) : (s.measure now).enabled = s.enabled := by
  unfold measure
  dsimp only
  split <;> rfl

theorem enabled_sample (s : Limiter α) (now : α) (throttled : Bool) :
    (s.sample now throttled).1.enabled = (s.enabled || throttled) := by
  cases throttled with
  | false =>
    calc (s.sample now false).1.enabled
      _ = (s.measure now).enabled := enabled_refill _ now
      _ = (s.enabled || false) := by rw [enabled_measure, Bool.or_false]
  | true =>
    calc (s.sample now true).1.enabled
      _ = ((s.measure now).throttle now).2.enabled := enabled_refill _ now
      _ = (s.enabled || true) := (Bool.or_true s.enabled).symm

theorem respond_of_isCost {cost : α} (s : Limiter α) (now : α) (good : isCost cost = true) :
    s.respond now (.acquire cost) = granted (s.take now cost) := by
  rw [respond, acquire?, if_pos good]
  rfl

theorem respond_of_not_isCost {cost : α} (s : Limiter α) (now : α)
    (bad : ¬isCost cost = true) : s.respond now (.acquire cost) = (.refused, s, []) := by
  rw [respond, acquire?, if_neg bad]
  rfl

theorem respond_acquire (s : Limiter α) (now cost : α) :
    (s.respond now (.acquire cost)).2.1 =
      if isCost cost then (s.take now cost).2.1 else s := by
  by_cases good : isCost cost = true
  · rw [respond_of_isCost s now good, if_pos good]
    rfl
  · rw [respond_of_not_isCost s now good, if_neg good]

theorem enabled_respond (s : Limiter α) (now : α) (call : LimiterCall α) :
    (s.respond now call).2.1.enabled = (s.enabled || call.throttles) := by
  cases call with
  | token => exact (s.enabled_take now _).trans (Bool.or_false _).symm
  | acquire cost =>
    rw [respond_acquire, apply_ite Limiter.enabled, enabled_take, ite_self]
    exact (Bool.or_false _).symm
  | sample throttled => exact s.enabled_sample now throttled

theorem take_of_disabled (disabled : s.enabled = false) (now amount : α) :
    (s.take now amount).2.1 = s := by
  rw [take, disabled]
  rfl

/-- A limiter that is not enabled gives nothing away. -/
theorem respond_of_disabled (disabled : s.enabled = false) (now : α) {call : LimiterCall α}
    (other : call.isSample = false) : (s.respond now call).2.1 = s := by
  cases call with
  | token => exact take_of_disabled disabled now _
  | acquire cost => rw [respond_acquire, take_of_disabled disabled, ite_self]
  | sample throttled => cases other

theorem respond_of_isBadCost (s : Limiter α) (now : α) {call : LimiterCall α}
    (bad : call.isBadCost = true) : (s.respond now call).2.1 = s := by
  cases call with
  | token | sample _ => cases bad
  | acquire cost =>
    have refused : ¬isCost cost = true := by simpa [isBadCost] using bad
    rw [respond_acquire, if_neg refused]

/-! ### Runs -/

theorem enabled_afterCalls (s : Limiter α) (calls : List (α × LimiterCall α)) :
    (s.afterCalls calls).enabled = (s.enabled || calls.any fun call => call.2.throttles) := by
  induction calls generalizing s with
  | nil => exact (Bool.or_false s.enabled).symm
  | cons call rest ih => rw [afterCalls, ih, enabled_respond, List.any_cons, Bool.or_assoc]

theorem afterCalls_append (s : Limiter α) (calls later : List (α × LimiterCall α)) :
    s.afterCalls (calls ++ later) = (s.afterCalls calls).afterCalls later := by
  induction calls generalizing s with
  | nil => rfl
  | cons call rest ih => exact ih _

theorem history_append (s : Limiter α) (calls later : List (α × LimiterCall α)) :
    s.history (calls ++ later) = s.history calls ++ (s.afterCalls calls).history later := by
  induction calls generalizing s with
  | nil => rfl
  | cons call rest ih => rw [List.cons_append, history, ih]; rfl

theorem takeWhile_history (p : LimiterCall α → Bool) (s : Limiter α)
    (calls : List (α × LimiterCall α)) :
    (s.history calls).takeWhile (fun entry => p entry.call) =
      s.history (calls.takeWhile fun call => p call.2) := by
  induction calls generalizing s with
  | nil => rfl
  | cons call rest ih =>
    rw [history, List.takeWhile_cons, List.takeWhile_cons]
    dsimp only
    split
    · rw [ih, history]
    · rfl

theorem dropWhile_history (p : LimiterCall α → Bool) (s : Limiter α)
    (calls : List (α × LimiterCall α)) :
    (s.history calls).dropWhile (fun entry => p entry.call) =
      (s.afterCalls (calls.takeWhile fun call => p call.2)).history
        (calls.dropWhile fun call => p call.2) := by
  induction calls generalizing s with
  | nil => rfl
  | cons call rest ih =>
    rw [history, List.dropWhile_cons, List.dropWhile_cons, List.takeWhile_cons]
    dsimp only
    split
    · rw [ih, afterCalls]
    · rfl

/-- Calls that change nothing can be left out, as far as those that are made keep it so. -/
theorem history_filter (keep : LimiterCall α → Bool) (holds : Limiter α → Prop) (s : Limiter α)
    (calls : List (α × LimiterCall α)) (here : holds s)
    (kept : ∀ s, holds s → ∀ call ∈ calls, holds (s.respond call.1 call.2).2.1)
    (idle : ∀ s, holds s → ∀ call ∈ calls, keep call.2 = false →
      (s.respond call.1 call.2).2.1 = s) :
    s.history (calls.filter fun call => keep call.2) =
        (s.history calls).filter (fun entry => keep entry.call) ∧
      s.afterCalls (calls.filter fun call => keep call.2) = s.afterCalls calls := by
  induction calls generalizing s with
  | nil => exact ⟨rfl, rfl⟩
  | cons call rest ih =>
    have first := List.mem_cons_self (a := call) (l := rest)
    obtain ⟨entries, last⟩ := ih _ (kept s here call first)
      (fun s here x member => kept s here x (List.mem_cons_of_mem call member))
      (fun s here x member => idle s here x (List.mem_cons_of_mem call member))
    rw [history, afterCalls, List.filter_cons, List.filter_cons]
    cases made : keep call.2 with
    | true => exact ⟨congrArg _ entries, last⟩
    | false =>
      have unchanged := idle s here call first made
      rw [unchanged] at entries last ⊢
      exact ⟨entries, last⟩

/-- A limiter is enabled exactly when a sample was throttled, whatever else was asked of it.  Requests
before that and requests that cannot cost what they are said to make no difference: without them all
other calls are answered the same. -/
theorem history_remaining (start : α) (calls : List (α × LimiterCall α)) :
    (((new start).afterCalls calls).enabled = true ↔ ∃ now, (now, .sample true) ∈ calls) ∧
      (new start).history (remaining (·.2) calls) =
        remaining (·.call) ((new start).history calls) := by
  constructor
  · rw [enabled_afterCalls, new, Bool.false_or, List.any_eq_true]
    constructor
    · rintro ⟨⟨now, call⟩, member, throttled⟩
      cases call with
      | token | acquire _ => cases throttled
      | sample throttled' => exact ⟨now, by simpa [throttles] using throttled ▸ member⟩
    · rintro ⟨now, member⟩
      exact ⟨(now, .sample true), member, rfl⟩
  · -- Before the first throttled sample the limiter stays disabled; behind it nothing is needed of it.
    let quiet := calls.takeWhile fun call => !call.2.throttles
    let rest := calls.dropWhile fun call => !call.2.throttles
    have before := history_filter isSample (fun s => s.enabled = false) (new start) quiet rfl
      (by
        intro s disabled call member
        have passed := List.all_eq_true.mp List.all_takeWhile call member
        rw [enabled_respond, disabled, Bool.false_or]
        simpa using passed)
      (fun s disabled call _ other => respond_of_disabled disabled call.1 other)
    have behind := history_filter (fun call => !call.isBadCost) (fun _ => True)
      ((new start).afterCalls quiet) rest trivial (fun _ _ _ _ => trivial)
      (fun s _ call _ bad => respond_of_isBadCost s call.1 (by simpa using bad))
    rw [remaining, remaining, history_append, takeWhile_history fun call => !call.throttles,
      dropWhile_history fun call => !call.throttles, before.1, before.2, behind.1]

end Limiter

end RequestSigning
