import RequestSigning.Proofs.Retry.Bounds

/-!
# Throttled again and again

A throttled sample takes the rate of an enabled limiter to seven tenths of itself or less, or to the
floor (`fillRate_throttled_le`), whatever was measured and whenever.  So the rate of a limiter that
is throttled all the time falls as fast as the powers of seven tenths.
-/

namespace RequestSigning

namespace Limiter

/-- Throttled samples at these readings of the clock. -/
def throttledSamples {α : Type} (moments : List α) : List (α × LimiterCall α) :=
  moments.map fun now => (now, .sample true)

section

variable {K : Type} [Field K] [LinearOrder K] [FloorRing K] (root : K → K) {s : Limiter K}

theorem exact_retained : @retained K (.ofField root) = 7 / 10 := by
  change ((7 : Nat) : K) / 10 = 7 / 10
  rw [Nat.cast_ofNat]

theorem enabled_throttled (s : Limiter K) (now : K) :
    (@sample K (.ofField root) s now true).1.enabled = true := by
  rw [@enabled_sample K (.ofField root), Bool.or_true]

variable [IsStrictOrderedRing K]

theorem fillRate_throttled_le (enabled : s.enabled = true) (now : K) :
    (@sample K (.ofField root) s now true).1.fillRate ≤ max (7 / 10 * s.fillRate) (1 / 2) := by
  have still : (@measure K (.ofField root) s now).enabled = true := by
    rw [@enabled_measure K (.ofField root), enabled]
  have cut : (@throttle K (.ofField root) (@measure K (.ofField root) s now) now).1 ≤
      7 / 10 * s.fillRate := by
    unfold throttle
    dsimp only
    rw [if_pos still, RateNumber.exact_lesser, @fillRate_measure K (.ofField root),
      exact_retained, mul_comm]
    exact mul_le_mul_of_nonneg_left (min_le_right _ _) (by norm_num)
  change (@settle K (.ofField root) _ now _).fillRate ≤ _
  rw [exact_fillRate_settle, RateNumber.exact_lesser]
  exact max_le_max ((min_le_left _ _).trans cut) le_rfl

theorem fillRate_throttled_lt (enabled : s.enabled = true) (above : 1 / 2 < s.fillRate) (now : K) :
    (@sample K (.ofField root) s now true).1.fillRate < s.fillRate := by
  apply (fillRate_throttled_le root enabled now).trans_lt
  apply max_lt _ above
  linarith

theorem fillRate_afterThrottled_le (enabled : s.enabled = true) (moments : List K) :
    (@afterCalls K (.ofField root) s (throttledSamples moments)).fillRate ≤
      max ((7 / 10) ^ moments.length * s.fillRate) (1 / 2) := by
  induction moments generalizing s with
  | nil =>
    rw [List.length_nil, pow_zero, one_mul]
    exact le_max_left _ _
  | cons now moments ih =>
    have cut := fillRate_throttled_le root enabled now
    have share : (0 : K) ≤ (7 / 10) ^ moments.length := by positivity
    have atFloor : (7 / 10 : K) ^ moments.length * (1 / 2) ≤ 1 / 2 :=
      mul_le_of_le_one_left (by norm_num) (pow_le_one₀ (by norm_num) (by norm_num))
    apply (ih (enabled_throttled root s now)).trans
    apply max_le _ (le_max_right _ _)
    calc (7 / 10) ^ moments.length * (@sample K (.ofField root) s now true).1.fillRate
      _ ≤ (7 / 10) ^ moments.length * max (7 / 10 * s.fillRate) (1 / 2) :=
        mul_le_mul_of_nonneg_left cut share
      _ = max ((7 / 10) ^ (moments.length + 1) * s.fillRate)
            ((7 / 10) ^ moments.length * (1 / 2)) := by
        rw [mul_max_of_nonneg _ _ share, pow_succ, mul_assoc]
      _ ≤ max ((7 / 10) ^ (moments.length + 1) * s.fillRate) (1 / 2) :=
        max_le_max le_rfl atFloor

/-- From every limiter that a run can leave enabled, and at whatever readings of the clock the
service throttles from then on: each throttled sample lowers the rate while it is above half a token
a second, so many of them leave no more than that power of seven tenths of the rate, or the floor,
and the rate never falls below the floor. -/
theorem throttling_lowers_fillRate {start : K} {earlier : List (K × LimiterCall K)}
    (enabled : (reached root start earlier).enabled = true) (moments : List K) :
    let rate (moments : List K) :=
      (reached root start (earlier ++ throttledSamples moments)).fillRate
    rate moments ≤ max ((7 / 10) ^ moments.length * (reached root start earlier).fillRate) (1 / 2) ∧
      (∀ now, 1 / 2 < rate moments → rate (moments ++ [now]) < rate moments) ∧
      1 / 2 ≤ rate moments := by
  intro rate
  have behind (moments : List K) : reached root start (earlier ++ throttledSamples moments) =
      @afterCalls K (.ofField root) (reached root start earlier) (throttledSamples moments) :=
    @afterCalls_append K (.ofField root) _ _ _
  have still : (reached root start (earlier ++ throttledSamples moments)).enabled = true := by
    rw [behind, @enabled_afterCalls K (.ofField root), enabled, Bool.true_or]
  refine ⟨?_, fun now above => ?_, (isBounded_reached root start _).floor⟩
  · change (reached root start _).fillRate ≤ _
    rw [behind]
    exact fillRate_afterThrottled_le root enabled moments
  · change (reached root start (earlier ++ throttledSamples (moments ++ [now]))).fillRate < _
    rw [throttledSamples, List.map_append, ← List.append_assoc, List.map_singleton, reached_sample]
    exact fillRate_throttled_lt root still above now

end

/-- The clock is set back on the way, and the third throttled sample finds the floor. -/
theorem throttling_lowers_fillRate_twice :
    let rate (moments : List Rat) :=
      (reached id 0 (throttledOnce ++ throttledSamples moments)).fillRate
    (reached id 0 throttledOnce).enabled = true ∧ (reached id 0 throttledOnce).fillRate = 868 / 625 ∧
      rate [2, 1] ≤ max ((7 / 10) ^ 2 * (868 / 625)) (1 / 2) ∧ rate [2, 1] = 10633 / 15625 ∧
      rate [2, 1, 5] < rate [2, 1] ∧ rate [2, 1, 5] = 1 / 2 := by
  intro rate
  have enabled : (reached id 0 throttledOnce).enabled = true := by decide +kernel
  have first : (reached id 0 throttledOnce).fillRate = 868 / 625 := by decide +kernel
  have second : rate [2, 1] = 10633 / 15625 := by decide +kernel
  have third : rate [2, 1, 5] = 1 / 2 := by decide +kernel
  obtain ⟨decay, falls, _⟩ := throttling_lowers_fillRate id enabled [2, 1]
  rw [first] at decay
  have above : 1 / 2 < rate [2, 1] := by
    rw [second]
    norm_num
  exact ⟨enabled, first, decay, second, falls 5 above, third⟩

end Limiter

end RequestSigning
