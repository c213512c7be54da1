import Mathlib.Algebra.Order.Field.Basic
import Mathlib.Data.Rat.Floor
import Mathlib.Tactic.NormNum
import Mathlib.Tactic.Positivity
import RequestSigning.Proofs.Retry.Exact

/-!
# Bounds of the limiter's numbers

`IsBounded` is what a run keeps of the rates and of the bucket, wherever the clock goes and whatever
stands for the cube root.  Every sample brings it about anew, with no regard to the rate that the
curve gave (`isBounded_settle`).  Waits are exact here, as long as it takes for the lack to come in.
-/

namespace RequestSigning

namespace Limiter

/-! ### What samples and requests change -/

/-- What is measured of samples: the rate, those since it was measured, and the half second. -/
def tally {α : Type} (s : Limiter α) : α × Nat × α := (s.measuredRate, s.samples, s.bucket)

section

variable {α : Type} [RateNumber α] (s : Limiter α) (now rate : α)

theorem fillRate_measure : (s.measure now).fillRate = s.fillRate := by
  unfold measure
  dsimp only
  split <;> rfl

theorem fillRate_settle :
    (s.settle now rate).fillRate = RateNumber.greater rate minFillRate := rfl

theorem maxCapacity_settle :
    (s.settle now rate).maxCapacity = RateNumber.greater rate minCapacity := rfl

theorem capacity_settle :
    (s.settle now rate).capacity =
      RateNumber.lesser (s.refill now).capacity (RateNumber.greater rate minCapacity) := rfl

theorem fillRate_refill : (s.refill now).fillRate = s.fillRate := by
  unfold refill
  split <;> rfl

theorem tally_settle : (s.settle now rate).tally = s.tally := by
  change (s.refill now).tally = s.tally
  unfold refill
  split <;> rfl

theorem measuredRate_settle : (s.settle now rate).measuredRate = s.measuredRate :=
  congrArg Prod.fst (tally_settle s now rate)

/-- A sample is measured, and then the bucket is settled at no more than twice the measured rate. -/
theorem sample_eq_settle (throttled : Bool) :
    ∃ (next : Limiter α) (rate : α), next.measuredRate = (s.measure now).measuredRate ∧
      (s.sample now throttled).1 =
        next.settle now (RateNumber.lesser rate (RateNumber.ofInt 2 * next.measuredRate)) := by
  cases throttled with
  | false => exact ⟨s.measure now, (s.measure now).curve now, rfl, rfl⟩
  | true =>
    exact ⟨((s.measure now).throttle now).2, ((s.measure now).throttle now).1, rfl, rfl⟩

end

/-! ### Bounds that every call keeps -/

section

variable {K : Type} [Field K] [LinearOrder K]

/-- What holds of the limiter's numbers at any time. -/
structure IsBounded (s : Limiter K) : Prop where
  measured : 0 ≤ s.measuredRate
  floor : 1 / 2 ≤ s.fillRate
  ceiling : s.fillRate ≤ max (1 / 2) (2 * s.measuredRate)
  room : 1 ≤ s.maxCapacity
  level : s.capacity ≤ s.maxCapacity

theorem IsBounded.fillRate_pos [IsStrictOrderedRing K] {s : Limiter K} (bounded : s.IsBounded) :
    0 < s.fillRate :=
  one_half_pos.trans_le bounded.floor

variable [FloorRing K] (root : K → K) {s : Limiter K}

theorem exact_minFillRate : @minFillRate K (.ofField root) = 1 / 2 := by
  change ((5 : Nat) : K) / 10 = 1 / 2
  norm_num

theorem exact_minCapacity : @minCapacity K (.ofField root) = 1 := Int.cast_one

theorem exact_fillRate_settle (now rate : K) :
    (@settle K (.ofField root) s now rate).fillRate = max rate (1 / 2) := by
  rw [@fillRate_settle K (.ofField root), RateNumber.exact_greater, exact_minFillRate]

theorem isBounded_refill (bounded : s.IsBounded) (now : K) :
    (@refill K (.ofField root) s now).IsBounded := by
  obtain ⟨measured, floor, ceiling, room, level⟩ := bounded
  unfold refill
  split
  · rw [RateNumber.exact_lesser]
    exact ⟨measured, floor, ceiling, room, min_le_left _ _⟩
  · exact ⟨measured, floor, ceiling, room, level⟩

variable [IsStrictOrderedRing K]

theorem isBounded_new (start : K) : (@new K (.ofField root) start).IsBounded where
  measured := (Int.cast_zero (R := K)).ge
  floor := (exact_minFillRate root).ge
  ceiling := (exact_minFillRate root).le.trans (le_max_left _ _)
  room := by
    have large : (1 : K) ≤ 2 ^ 53 - 1 := by norm_num
    exact one_le_mul_of_one_le_of_one_le large (one_le_pow₀ one_le_two)
  level := by
    change ((0 : Int) : K) ≤ (2 ^ 53 - 1) * 2 ^ 971
    have large : (0 : K) ≤ 2 ^ 53 - 1 := by norm_num
    rw [Int.cast_zero]
    exact mul_nonneg large (pow_nonneg zero_le_two _)

theorem isBounded_take (bounded : s.IsBounded) (now : K) {cost : K} (positive : 0 ≤ cost) :
    (@take K (.ofField root) s now cost).2.1.IsBounded := by
  unfold take
  split
  · obtain ⟨measured, floor, ceiling, room, level⟩ := isBounded_refill root bounded now
    have left := (sub_le_self _ positive).trans level
    dsimp only
    split <;> exact ⟨measured, floor, ceiling, room, left⟩
  · exact bounded

/-- A measured rate counts samples over a time, so it is not negative. -/
theorem measured_nonneg (measured : 0 ≤ s.measuredRate) (now : K) :
    0 ≤ (@measure K (.ofField root) s now).measuredRate := by
  unfold measure
  dsimp only
  split
  · rename_i later
    have span := sub_pos.mpr ((RateNumber.exact_less root).mp later)
    have count : (0 : K) ≤ ((s.samples + 1 : Nat) : Int) := by positivity
    have newest : (0 : K) ≤ ((8 : Nat) : K) / 10 := by positivity
    have earlier : (0 : K) ≤ ((1 : Int) : K) - ((8 : Nat) : K) / 10 := by norm_num
    exact add_nonneg (mul_nonneg (div_nonneg count span.le) newest) (mul_nonneg measured earlier)
  · exact measured

omit [IsStrictOrderedRing K] in
theorem isBounded_settle (measured : 0 ≤ s.measuredRate) (now : K) {rate : K}
    (most : rate ≤ 2 * s.measuredRate) :
    (@settle K (.ofField root) s now rate).IsBounded := by
  have same := @measuredRate_settle K (.ofField root) s now rate
  have room : (@settle K (.ofField root) s now rate).maxCapacity = max rate 1 := by
    rw [@maxCapacity_settle K (.ofField root), RateNumber.exact_greater, exact_minCapacity]
  constructor
  · rwa [same]
  · rw [exact_fillRate_settle]
    exact le_max_right _ _
  · rw [exact_fillRate_settle, same, max_comm]
    exact max_le_max le_rfl most
  · rw [room]
    exact le_max_right _ _
  · rw [@capacity_settle K (.ofField root), RateNumber.exact_lesser]
    exact min_le_right _ _

theorem isBounded_sample (measured : 0 ≤ s.measuredRate) (now : K) (throttled : Bool) :
    (@sample K (.ofField root) s now throttled).1.IsBounded := by
  obtain ⟨next, rate, same, settled⟩ :=
    @sample_eq_settle K (.ofField root) s now throttled
  have counted : 0 ≤ next.measuredRate := same ▸ measured_nonneg root measured now
  have most : min rate (((2 : Int) : K) * next.measuredRate) ≤ 2 * next.measuredRate := by
    rw [Int.cast_ofNat]
    exact min_le_right _ _
  rw [settled, RateNumber.exact_lesser]
  exact isBounded_settle root counted now most

theorem isBounded_respond (bounded : s.IsBounded) (now : K) (call : LimiterCall K) :
    (@respond K (.ofField root) s now call).2.1.IsBounded := by
  cases call with
  | token => exact isBounded_take root bounded now (zero_le_one.trans_eq Int.cast_one.symm)
  | acquire cost =>
    rw [@respond_acquire K (.ofField root)]
    split
    · rename_i good
      exact isBounded_take root bounded now ((RateNumber.exact_isCost root).mp good)
    · exact bounded
  | sample throttled => exact isBounded_sample root bounded.measured now throttled

theorem isBounded_reached (start : K) (calls : List (K × LimiterCall K)) :
    (reached root start calls).IsBounded := by
  have run (s : Limiter K) (bounded : s.IsBounded) :
      (@afterCalls K (.ofField root) s calls).IsBounded := by
    induction calls generalizing s with
    | nil => exact bounded
    | cons call rest ih => exact ih _ (isBounded_respond root bounded call.1 call.2)
  exact run _ (isBounded_new root start)

/-- Who has to wait lacks something, and it comes in at the rate that fills the bucket. -/
theorem lack_of_take {now cost wait : K}
    (waits : (@take K (.ofField root) s now cost).1 = .after wait) :
    ∃ lack, 0 < lack ∧ wait = lack / s.fillRate := by
  unfold take at waits
  split at waits
  · dsimp only at waits
    split at waits
    · rename_i short
      rw [@fillRate_refill K (.ofField root)] at waits
      cases waits
      exact ⟨_, sub_pos.mpr ((RateNumber.exact_less root).mp short), rfl⟩
    · cases waits
  · cases waits

theorem lack_of_respond {now wait : K} {call : LimiterCall K}
    (waits : (@respond K (.ofField root) s now call).1 = .granted (.after wait)) :
    ∃ lack, 0 < lack ∧ wait = lack / s.fillRate := by
  cases call with
  | token => exact lack_of_take root (LimiterAnswer.granted.inj waits)
  | acquire cost =>
    by_cases good : @RateNumber.isCost K (.ofField root) cost = true
    · rw [@respond_of_isCost K (.ofField root) cost s now good] at waits
      exact lack_of_take root (LimiterAnswer.granted.inj waits)
    · rw [@respond_of_not_isCost K (.ofField root) cost s now good] at waits
      cases waits
  | sample _ => cases waits

/-- Whatever was asked of a limiter and wherever its clock went, its numbers are within their bounds,
and so whoever is made to wait waits for a positive time: for what is lacking, at a rate that is
positive. -/
theorem reached_within_bounds (start : K) (calls : List (K × LimiterCall K)) :
    let s := reached root start calls
    s.IsBounded ∧ 0 < s.fillRate ∧
      ∀ now call wait, (@respond K (.ofField root) s now call).1 = .granted (.after wait) →
        0 < wait ∧ ∃ lack, 0 < lack ∧ wait = lack / s.fillRate := by
  intro s
  have bounded : s.IsBounded := isBounded_reached root start calls
  refine ⟨bounded, bounded.fillRate_pos, fun now call wait waits => ?_⟩
  obtain ⟨lack, positive, rfl⟩ := lack_of_respond root waits
  exact ⟨div_pos positive bounded.fillRate_pos, lack, positive, rfl⟩

end

/-- Two successful samples and a throttled one, half a second apart. -/
def throttledOnce : List (Rat × LimiterCall Rat) :=
  [(1 / 2, .sample false), (1, .sample false), (3 / 2, .sample true)]

/-- The bucket is half full then.  Who asks for a token on a clock that was set back by two seconds
and a half waits almost three seconds. -/
theorem reached_within_bounds_setBack :
    let s := reached id 0 throttledOnce
    s.IsBounded ∧ s.fillRate = 868 / 625 ∧ s.measuredRate = 248 / 125 ∧ s.capacity = 1 / 2 ∧
      (@respond Rat (.ofField id) s (-1) .token).1 = .granted (.after (4965 / 1736)) ∧
      (0 : Rat) < 4965 / 1736 := by
  intro s
  obtain ⟨bounded, _, waits⟩ := reached_within_bounds id (0 : Rat) throttledOnce
  have fill : s.fillRate = 868 / 625 := by decide +kernel
  have measured : s.measuredRate = 248 / 125 := by decide +kernel
  have level : s.capacity = 1 / 2 := by decide +kernel
  have grant : (@take Rat (.ofField id) s (-1) 1).1 = .after (4965 / 1736) := by decide +kernel
  have answer : (@respond Rat (.ofField id) s (-1) .token).1 = .granted (.after (4965 / 1736)) :=
    congrArg LimiterAnswer.granted grant
  exact ⟨bounded, fill, measured, level, answer, (waits _ _ _ answer).1⟩

end Limiter

end RequestSigning
