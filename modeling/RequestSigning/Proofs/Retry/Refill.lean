import RequestSigning.Proofs.Retry.Bounds

/-!
# Refilling and clocks that are set back

The bucket is filled by the difference of two readings of the clock, with its sign.  A clock that was
set back takes tokens out of it, as many as would come in in that time (`levelAt_of_le`), and the
waits grow by as much.
-/

namespace RequestSigning

/-- How long a request is held up. -/
def Grant.lag {α : Type} [Zero α] : Grant α → α
  | .atOnce => 0
  | .after lag => lag

namespace Limiter

section

variable {K : Type} [Field K] [LinearOrder K] [IsStrictOrderedRing K] {s : Limiter K}
  {last now cost : K}

theorem le_levelAt_iff (bounded : s.IsBounded) :
    s.capacity ≤ s.levelAt last now ↔ last ≤ now := by
  unfold levelAt
  rw [le_min_iff, le_add_iff_nonneg_right, mul_nonneg_iff_of_pos_left bounded.fillRate_pos,
    sub_nonneg]
  exact and_iff_right bounded.level

theorem levelAt_of_le (bounded : s.IsBounded) (back : now ≤ last) :
    s.levelAt last now = s.capacity - s.fillRate * (last - now) := by
  have less : s.capacity + s.fillRate * (now - last) = s.capacity - s.fillRate * (last - now) := by
    ring
  have drained : 0 ≤ s.fillRate * (last - now) :=
    mul_nonneg bounded.fillRate_pos.le (sub_nonneg.mpr back)
  rw [levelAt, less]
  exact min_eq_right ((sub_le_self _ drained).trans bounded.level)

theorem lag_grantAt (positive : 0 < s.fillRate) (now cost : K) :
    (s.grantAt last now cost).lag = max 0 ((cost - s.levelAt last now) / s.fillRate) := by
  unfold grantAt
  dsimp only
  split
  · rename_i short
    exact (max_eq_right (div_pos (sub_pos.mpr short) positive).le).symm
  · rename_i full
    have none : cost - s.levelAt last now ≤ 0 := sub_nonpos.mpr (not_lt.mp full)
    exact (max_eq_left (div_nonpos_of_nonpos_of_nonneg none positive.le)).symm

omit [IsStrictOrderedRing K] in
theorem grantAt_eq_atOnce_iff : s.grantAt last now cost = .atOnce ↔ cost ≤ s.levelAt last now := by
  unfold grantAt
  dsimp only
  split
  · rename_i short
    exact ⟨nofun, fun full => absurd short full.not_gt⟩
  · rename_i full
    exact ⟨fun _ => not_lt.mp full, fun _ => rfl⟩

/-- On a clock that was set back whoever has to wait waits longer. -/
theorem lag_le_lag_iff (bounded : s.IsBounded) :
    (s.grantAt last now cost).lag ≤ (s.grantAt last last cost).lag ↔
      last ≤ now ∨ s.grantAt last now cost = .atOnce := by
  have positive := bounded.fillRate_pos
  have standing : s.levelAt last last = s.capacity := by
    rw [levelAt_of_le bounded le_rfl, sub_self, mul_zero, sub_zero]
  rw [lag_grantAt positive, lag_grantAt positive, standing, grantAt_eq_atOnce_iff]
  constructor
  · intro shorter
    by_contra longer
    obtain ⟨back, short⟩ := not_or.mp longer
    have level : s.levelAt last now < s.capacity := lt_of_not_ge (mt (le_levelAt_iff bounded).mp back)
    have lack : 0 < (cost - s.levelAt last now) / s.fillRate :=
      div_pos (sub_pos.mpr (not_le.mp short)) positive
    have more : (cost - s.capacity) / s.fillRate < (cost - s.levelAt last now) / s.fillRate :=
      div_lt_div_of_pos_right (sub_lt_sub_left level cost) positive
    exact absurd shorter (not_le.mpr ((max_lt lack more).trans_le (le_max_right _ _)))
  · rintro (forward | full)
    · have level := (le_levelAt_iff bounded).mpr forward
      exact max_le_max le_rfl
        (div_le_div_of_nonneg_right (sub_le_sub_left level cost) positive.le)
    · have none : (cost - s.levelAt last now) / s.fillRate ≤ 0 :=
        div_nonpos_of_nonpos_of_nonneg (sub_nonpos.mpr full) positive.le
      rw [max_eq_left none]
      exact le_max_left _ _

variable [FloorRing K] (root : K → K)

omit [IsStrictOrderedRing K] in
theorem exact_acquire? (enabled : s.enabled = true) (filled : s.filledAt = some last) (now : K)
    (good : 0 ≤ cost) :
    ∃ events, @acquire? K (.ofField root) s now cost =
      some (s.grantAt last now cost, s.spent last now cost, events) := by
  obtain ⟨grant, left⟩ := exact_take root enabled filled now cost
  refine ⟨(@take K (.ofField root) s now cost).2.2, ?_⟩
  unfold acquire?
  rw [if_pos ((RateNumber.exact_isCost root).mpr good), ← grant, ← left]

/-- For every limiter that a run can leave enabled, what it charges for a request at any reading of
the clock: no more than the cost exactly if the clock has not gone back since the bucket was filled
last.  When it has, the bucket also loses what would have come in over the same time, and the request
waits longer than it would have on a clock that stood still, unless it need not wait at all. -/
theorem acquire_charges_cost_iff {start : K} {calls : List (K × LimiterCall K)}
    (enabled : (reached root start calls).enabled = true) :
    let s := reached root start calls
    ∃ last, s.filledAt = some last ∧ ∀ now cost, 0 ≤ cost →
      ∃ taken standing, @acquire? K (.ofField root) s now cost = some taken ∧
        @acquire? K (.ofField root) s last cost = some standing ∧
        (s.capacity - cost ≤ taken.2.1.capacity ↔ last ≤ now) ∧
        (taken.1.lag ≤ standing.1.lag ↔ last ≤ now ∨ taken.1 = .atOnce) ∧
        (now ≤ last → taken.2.1.capacity = s.capacity - s.fillRate * (last - now) - cost) := by
  intro s
  obtain ⟨last, filled⟩ := reached_filledAt root enabled
  have bounded : s.IsBounded := isBounded_reached root start calls
  refine ⟨last, filled, fun now cost good => ?_⟩
  obtain ⟨_, taken⟩ := exact_acquire? root enabled filled now good
  obtain ⟨_, standing⟩ := exact_acquire? root enabled filled last good
  refine ⟨_, _, taken, standing, ?_, lag_le_lag_iff bounded, fun back => ?_⟩
  · change s.capacity - cost ≤ s.levelAt last now - cost ↔ last ≤ now
    rw [sub_le_sub_iff_right, le_levelAt_iff bounded]
  · change s.levelAt last now - cost = _
    rw [levelAt_of_le bounded back]

end

/-- A limiter that was throttled at a hundred seconds. -/
def throttledAtHundred : List (Rat × LimiterCall Rat) := [(100, .sample true)]

/-- Its bucket is empty.  A second later it has half a token, and the other half comes in one more. -/
theorem acquire_charges_cost_later :
    let s := reached id 100 throttledAtHundred
    s.enabled = true ∧ (0 : Rat) ≤ 1 ∧
      ∃ taken standing, @acquire? Rat (.ofField id) s 101 1 = some taken ∧
        @acquire? Rat (.ofField id) s 100 1 = some standing ∧
        s.capacity - 1 ≤ taken.2.1.capacity ∧ taken.1.lag ≤ standing.1.lag ∧
        taken.1 = .after 1 ∧ standing.1 = .after 2 := by
  intro s
  have enabled : s.enabled = true := by decide +kernel
  obtain ⟨last, filled, charges⟩ := acquire_charges_cost_iff id enabled
  obtain rfl : last = 100 := Option.some.inj (filled.symm.trans (by decide +kernel))
  obtain ⟨taken, standing, atLater, atLast, level, wait, _⟩ := charges 101 1 zero_le_one
  have forward : (100 : Rat) ≤ 101 := by norm_num
  have grant : (@acquire? Rat (.ofField id) s 101 1).map (·.1) = some (.after 1) := by
    decide +kernel
  have still : (@acquire? Rat (.ofField id) s 100 1).map (·.1) = some (.after 2) := by
    decide +kernel
  rw [atLater] at grant
  rw [atLast] at still
  exact ⟨enabled, zero_le_one, taken, standing, atLater, atLast, level.mpr forward,
    wait.mpr (.inl forward), Option.some.inj grant, Option.some.inj still⟩

/-- Ten seconds before, five tokens are lost with the one that is charged, and it is granted after
twelve seconds in place of two. -/
theorem acquire_overcharges_setBack :
    let s := reached id 100 throttledAtHundred
    s.enabled = true ∧ s.filledAt = some 100 ∧
      ∃ taken standing, @acquire? Rat (.ofField id) s 90 1 = some taken ∧
        @acquire? Rat (.ofField id) s 100 1 = some standing ∧
        taken.2.1.capacity < s.capacity - 1 ∧ standing.1.lag < taken.1.lag ∧
        taken.2.1.capacity = s.capacity - 1 - 5 ∧ taken.1 = .after 12 ∧ standing.1 = .after 2 :=
  ⟨by decide +kernel, by decide +kernel, _, _, rfl, rfl, by decide +kernel, by decide +kernel,
    by decide +kernel, by decide +kernel, by decide +kernel⟩

end Limiter

end RequestSigning
