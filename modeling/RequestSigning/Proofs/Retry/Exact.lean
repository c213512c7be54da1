import RequestSigning.Proofs.Retry.Dormant
import RequestSigning.Retry.Exact

/-!
# The limiter on exact numbers

`reached` is the limiter behind a run, over any ordered field and with anything for the cube root, and
`exact_take` what it does with a request in the arithmetic of that field.
-/

namespace RequestSigning

namespace RateNumber

variable {K : Type} [Field K] [LinearOrder K] [FloorRing K] (root : K → K) {x y : K}

theorem exact_less : @less K (.ofField root) x y = true ↔ x < y := decide_eq_true_iff

theorem exact_isCost : @isCost K (.ofField root) x = true ↔ 0 ≤ x := by
  change (!decide (x < 0)) = true ↔ 0 ≤ x
  simp

theorem exact_lesser (x y : K) : @lesser K (.ofField root) x y = min x y := by
  unfold lesser
  by_cases less : y < x
  · rw [if_pos ((exact_less root).mpr less), min_eq_right less.le]
  · rw [if_neg (mt (exact_less root).mp less), min_eq_left (not_lt.mp less)]

theorem exact_greater (x y : K) : @greater K (.ofField root) x y = max x y := by
  unfold greater
  by_cases less : x < y
  · rw [if_pos ((exact_less root).mpr less), max_eq_right less.le]
  · rw [if_neg (mt (exact_less root).mp less), max_eq_left (not_lt.mp less)]

end RateNumber

namespace Limiter

/-! ### When the bucket was filled -/

section

variable {α : Type} [RateNumber α]

theorem filledAt_refill (s : Limiter α) (now : α) : (s.refill now).filledAt = some now := by
  unfold refill
  split <;> rfl

theorem filledAt_take {s : Limiter α} (enabled : s.enabled = true) (now cost : α) :
    (s.take now cost).2.1.filledAt = some now := by
  rw [take, if_pos enabled]
  dsimp only
  split <;> exact s.filledAt_refill now

theorem filledAt_sample (s : Limiter α) (now : α) (throttled : Bool) :
    (s.sample now throttled).1.filledAt = some now := by
  cases throttled with
  | false => exact filledAt_refill _ now
  | true => exact filledAt_refill _ now

/-- An enabled limiter knows when its bucket was filled last. -/
theorem isSome_filledAt_respond {s : Limiter α}
    (known : s.enabled = true → s.filledAt.isSome = true) (now : α) (call : LimiterCall α)
    (enabled : (s.respond now call).2.1.enabled = true) :
    (s.respond now call).2.1.filledAt.isSome = true := by
  have taken (cost : α) (enabled : s.enabled = true) :
      (s.take now cost).2.1.filledAt.isSome = true := by
    rw [filledAt_take enabled]
    rfl
  rw [enabled_respond] at enabled
  cases call with
  | token => exact taken _ (by simpa [LimiterCall.throttles] using enabled)
  | acquire cost =>
    have before : s.enabled = true := by simpa [LimiterCall.throttles] using enabled
    rw [respond_acquire]
    split
    · exact taken cost before
    · exact known before
  | sample throttled =>
    change (s.sample now throttled).1.filledAt.isSome = true
    rw [filledAt_sample]
    rfl

theorem isSome_filledAt_afterCalls {s : Limiter α} (calls : List (α × LimiterCall α))
    (known : s.enabled = true → s.filledAt.isSome = true)
    (enabled : (s.afterCalls calls).enabled = true) :
    (s.afterCalls calls).filledAt.isSome = true := by
  induction calls generalizing s with
  | nil => exact known enabled
  | cons call rest ih => exact ih (isSome_filledAt_respond known call.1 call.2) enabled

end

/-! ### Runs on exact numbers -/

section

variable {K : Type} [Field K] [LinearOrder K]

/-- How far the bucket is filled at `now`, when it was filled before at `filledAt`. -/
def levelAt (s : Limiter K) (filledAt now : K) : K :=
  min s.maxCapacity (s.capacity + s.fillRate * (now - filledAt))

theorem levelAt_le (s : Limiter K) (filledAt now : K) :
    s.levelAt filledAt now ≤ s.capacity + s.fillRate * (now - filledAt) :=
  min_le_right _ _

/-- The grant of an enabled limiter: what is in the bucket at once, and else what will be in it. -/
def grantAt (s : Limiter K) (filledAt now cost : K) : Grant K :=
  let level := s.levelAt filledAt now
  if level < cost then .after ((cost - level) / s.fillRate) else .atOnce

/-- The limiter behind the grant, in debt for what it does not have. -/
def spent (s : Limiter K) (filledAt now cost : K) : Limiter K :=
  { s with capacity := s.levelAt filledAt now - cost, filledAt := some now }

variable [FloorRing K] (root : K → K)

/-- The limiter that was new at `start`, after these calls. -/
def reached (start : K) (calls : List (K × LimiterCall K)) : Limiter K :=
  letI := RateNumber.ofField root
  (new start).afterCalls calls

theorem reached_sample (start : K) (calls : List (K × LimiterCall K)) (now : K) (throttled : Bool) :
    reached root start (calls ++ [(now, .sample throttled)]) =
      (@sample K (.ofField root) (reached root start calls) now throttled).1 :=
  @afterCalls_append K (.ofField root) _ _ _

theorem reached_filledAt {start : K} {calls : List (K × LimiterCall K)}
    (enabled : (reached root start calls).enabled = true) :
    ∃ filledAt, (reached root start calls).filledAt = some filledAt :=
  Option.isSome_iff_exists.mp
    (@isSome_filledAt_afterCalls K (.ofField root) _ calls nofun enabled)

variable {s : Limiter K} {filledAt : K}

theorem exact_refill (filled : s.filledAt = some filledAt) (now : K) :
    @refill K (.ofField root) s now =
      { s with capacity := s.levelAt filledAt now, filledAt := some now } := by
  unfold refill
  rw [filled]
  dsimp only
  rw [RateNumber.exact_lesser, levelAt, mul_comm s.fillRate]

theorem exact_take (enabled : s.enabled = true) (filled : s.filledAt = some filledAt)
    (now cost : K) :
    (@take K (.ofField root) s now cost).1 = s.grantAt filledAt now cost ∧
      (@take K (.ofField root) s now cost).2.1 = s.spent filledAt now cost := by
  unfold take grantAt
  dsimp only
  rw [if_pos enabled, exact_refill root filled]
  dsimp only
  by_cases short : s.levelAt filledAt now < cost
  · rw [if_pos ((RateNumber.exact_less root).mpr short), if_pos short]
    exact ⟨rfl, rfl⟩
  · rw [if_neg (mt (RateNumber.exact_less root).mp short), if_neg short]
    exact ⟨rfl, rfl⟩

end

end Limiter

end RequestSigning
