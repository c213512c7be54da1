import RequestSigning.Decimal.Shortest
import RequestSigning.Error
import RequestSigning.Log
import RequestSigning.Retry.Rate

/-!
# Adaptive rate limiter

The limiter lets everything pass until the service throttles for the first time.  From then on
each request takes tokens from a bucket.  The rate that fills the bucket is cut at each throttled
sample and grows back on a cubic curve towards the rate at which the service last throttled.
Every operation takes the reading of the clock as `now`.
-/

namespace RequestSigning

open RateNumber

/-- When a request may be sent. -/
inductive Grant (τ : Type)
  | atOnce
  /-- After a wait; the tokens are reserved already. -/
  | after (wait : τ)
  deriving DecidableEq, Repr

inductive LimiterEvent (α : Type)
  | delayed (wait capacity fillRate : α)
  | enabled
  | updated (fillRate maxCapacity measuredRate : α)

structure Limiter (α : Type) where
  fillRate : α
  maxCapacity : α
  capacity : α
  /-- When the bucket was last filled. -/
  filledAt : Option α
  enabled : Bool
  /-- The smoothed rate of requests. -/
  measuredRate : α
  /-- The half second that was counted last. -/
  bucket : α
  /-- Samples since then. -/
  samples : Nat
  /-- The rate at the last throttled sample, and its time. -/
  throttledRate : α
  throttledAt : α

namespace Limiter

section

variable {α : Type} [RateNumber α]

/-- The least rate at which the bucket fills: half a token a second. -/
def minFillRate : α := tenths 5

/-- The least capacity: one token. -/
def minCapacity : α := ofInt 1

def smoothing : α := tenths 8

def retained : α := tenths 7

def growth : α := tenths 4

def new (now : α) : Limiter α where
  fillRate := minFillRate
  maxCapacity := greatest
  capacity := ofInt 0
  filledAt := none
  enabled := false
  measuredRate := ofInt 0
  bucket := floor now
  samples := 0
  throttledRate := ofInt 0
  throttledAt := now

def refill (s : Limiter α) (now : α) : Limiter α :=
  match s.filledAt with
  | some last =>
    { s with
      capacity := lesser s.maxCapacity (s.capacity + (now - last) * s.fillRate)
      filledAt := some now }
  | none => { s with filledAt := some now }

/-- Take tokens; an empty bucket goes into debt and makes the caller wait. -/
def take (s : Limiter α) (now amount : α) : Grant α × Limiter α × List (LimiterEvent α) :=
  if s.enabled then
    let s := s.refill now
    let left := { s with capacity := s.capacity - amount }
    if less s.capacity amount then
      let wait := (amount - s.capacity) / s.fillRate
      (.after wait, left, [.delayed wait s.capacity s.fillRate])
    else (.atOnce, left, [])
  else (.atOnce, s, [])

/-- Count a sample, and measure the rate anew at each new half second. -/
def measure (s : Limiter α) (now : α) : Limiter α :=
  let bucket := floor (now * ofInt 2) / ofInt 2
  let samples := s.samples + 1
  if less s.bucket bucket then
    let rate := ofInt samples / (bucket - s.bucket)
    { s with
      measuredRate := rate * smoothing + s.measuredRate * (ofInt 1 - smoothing)
      samples := 0
      bucket := bucket }
  else { s with samples := samples }

/-- How long the curve takes back to the rate at the last throttled sample. -/
def recoveryTime (s : Limiter α) : α :=
  cbrt (s.throttledRate * (ofInt 1 - retained) / growth)

/-- The rate on the curve. -/
def curve (s : Limiter α) (now : α) : α :=
  let dt := now - s.throttledAt - s.recoveryTime
  growth * (dt * dt * dt) + s.throttledRate

/-- A throttled sample: the curve starts anew from the rate of now. -/
def throttle (s : Limiter α) (now : α) : α × Limiter α :=
  let rate := if s.enabled then lesser s.measuredRate s.fillRate else s.measuredRate
  (rate * retained, { s with throttledRate := rate, throttledAt := now, enabled := true })

/-- Fill the bucket at the old rate, then go over to the new one. -/
def settle (s : Limiter α) (now rate : α) : Limiter α :=
  let s := s.refill now
  let maxCapacity := greater rate minCapacity
  { s with
    fillRate := greater rate minFillRate
    maxCapacity := maxCapacity
    capacity := lesser s.capacity maxCapacity }

def sample (s : Limiter α) (now : α) (throttled : Bool) : Limiter α × List (LimiterEvent α) :=
  let s := s.measure now
  let (rate, next) := if throttled then s.throttle now else (s.curve now, s)
  let next := next.settle now (lesser rate (ofInt 2 * s.measuredRate))
  let started := if throttled && !s.enabled then [.enabled] else []
  (next, started ++ [.updated next.fillRate next.maxCapacity next.measuredRate])

/-- Take tokens, unless the cost is negative or not finite. -/
def acquire? (s : Limiter α) (now amount : α) :
    Option (Grant α × Limiter α × List (LimiterEvent α)) :=
  if isCost amount then some (s.take now amount) else none

end

def badCost (amount : Float) : Error :=
  (Error.new .requestInvalid "rate limiter cost must be a finite, non-negative number").withContext
    ("amount: " ++ Decimal.shortest amount)

def acquire (s : Limiter Float) (now amount : Float) :
    Except Error (Grant Float × Limiter Float × List (LimiterEvent Float)) :=
  match s.acquire? now amount with
  | some taken => .ok taken
  | none => .error (badCost amount)

end Limiter

/-- A report with three decimals for every number. -/
def LimiterEvent.entry : LimiterEvent Float → Log.Entry
  | .delayed wait capacity fillRate =>
    .debug ("rate limiter delayed a request by " ++ Decimal.fixed 3 wait ++ "s: capacity " ++
      Decimal.fixed 3 capacity ++ ", fill rate " ++ Decimal.fixed 3 fillRate)
  | .enabled => .debug "rate limiter enabled after the first throttling response"
  | .updated fillRate maxCapacity measuredRate =>
    .debug ("rate limiter updated: fill rate " ++ Decimal.fixed 3 fillRate ++ ", max capacity " ++
      Decimal.fixed 3 maxCapacity ++ ", measured rate " ++ Decimal.fixed 3 measuredRate)

def Grant.rounded : Grant Float → Grant Duration
  | .atOnce => .atOnce
  | .after seconds => .after (Duration.ofSeconds seconds)

end RequestSigning
