import Mathlib.Algebra.Order.Archimedean.Basic
import Mathlib.Tactic.FieldSimp
import Mathlib.Tactic.Linarith
import Mathlib.Tactic.Ring

/-!
# Counting samples by half seconds

A `Pace` is what is measured of samples that come every `period` milliseconds.  The first sample in a
half second measures the rate of all since the last such one, and `offset` is how late in its half
second that one came.  What is measured is above the true rate, `1000 / period`, exactly if the offset
grows (`Measured.rate_eq`).  An offset that keeps changing has to grow and to shrink, so the measured
rates go up and down for ever (`exists_rate_lt`), unless the period fits into half a second or half a
second into the period (`Settles.next`).
-/

namespace RequestSigning

/-- What has been measured of samples that come at a steady pace. -/
structure Pace (K : Type) where
  rate : K
  /-- Samples since the one that was measured last. -/
  samples : Nat
  /-- The half second that was counted last. -/
  half : Int
  /-- The clock at the last sample, in milliseconds. -/
  millis : Int

namespace Pace

/-- How far into its half second the sample was that was measured last, in milliseconds. -/
def offset {K : Type} (p : Pace K) (period : Int) : Int :=
  p.millis - 500 * p.half - p.samples * period

/-- The last sample was in the half second that was counted last, and so was the measured one. -/
structure InStep {K : Type} (p : Pace K) (period : Int) : Prop where
  half : p.half = p.millis / 500
  offset_nonneg : 0 ≤ p.offset period

theorem InStep.offset_lt {K : Type} {p : Pace K} {period : Int} (inStep : p.InStep period)
    (positive : 0 < period) : p.offset period < 500 := by
  have half := inStep.half
  have counted : 0 ≤ (p.samples : Int) * period := mul_nonneg p.samples.cast_nonneg positive.le
  unfold offset
  omega

variable {K : Type} [Field K]

/-- Nothing is measured yet, and whole seconds are counted. -/
def start (millis : Int) : Pace K := ⟨0, 0, 2 * (millis / 1000), millis⟩

def next (p : Pace K) (period : Int) : Pace K :=
  let millis := p.millis + period
  let halves := millis / 500 - p.half
  if halves = 0 then { p with samples := p.samples + 1, millis := millis }
  else ⟨(2 * (p.samples + 1) : Nat) / halves * (4 / 5) + p.rate * (1 / 5), 0, millis / 500, millis⟩

def after (p : Pace K) (period : Int) : Nat → Pace K
  | 0 => p
  | n + 1 => (p.after period n).next period

/-! ### One sample -/

section

variable {p : Pace K} {period : Int}

theorem millis_next (p : Pace K) (period : Int) : (p.next period).millis = p.millis + period := by
  unfold next
  dsimp only
  split <;> rfl

theorem half_next (p : Pace K) (period : Int) :
    (p.next period).half = (p.millis + period) / 500 := by
  unfold next
  dsimp only
  split
  · dsimp only
    omega
  · rfl

theorem next_within (same : (p.millis + period) / 500 = p.half) :
    p.next period = { p with samples := p.samples + 1, millis := p.millis + period } :=
  if_pos (sub_eq_zero.mpr same)

theorem next_beyond (later : (p.millis + period) / 500 ≠ p.half) :
    p.next period = ⟨(2 * (p.samples + 1) : Nat) / ((p.millis + period) / 500 - p.half : Int) * (4 / 5) +
      p.rate * (1 / 5), 0, (p.millis + period) / 500, p.millis + period⟩ :=
  if_neg (sub_ne_zero.mpr later)

theorem offset_next_within (same : (p.millis + period) / 500 = p.half) :
    (p.next period).offset period = p.offset period := by
  rw [next_within same]
  unfold offset
  push_cast
  ring

theorem offset_next_beyond (later : (p.millis + period) / 500 ≠ p.half) :
    (p.next period).offset period = (p.millis + period) % 500 := by
  rw [next_beyond later, offset, Nat.cast_zero, zero_mul]
  dsimp only
  omega

/-- What the first sample of a half second measures: so many samples over so many half seconds. -/
structure Measured (p : Pace K) (period count halves : Int) : Prop where
  count_pos : 0 < count
  halves_pos : 0 < halves
  halves_le : halves ≤ period
  /-- No half second is without a sample. -/
  halves_short : period ≤ 500 → halves = 1
  /-- No half second has two. -/
  count_long : 500 ≤ period → count = 1
  offset : (p.next period).offset period = p.offset period + (count * period - 500 * halves)
  offset_lt : (p.next period).offset period < period
  rate : (p.next period).rate = 2 * count / halves * (4 / 5) + p.rate * (1 / 5)

theorem InStep.measured (inStep : p.InStep period) (positive : 0 < period)
    (later : (p.millis + period) / 500 ≠ p.half) :
    p.Measured period (p.samples + 1) ((p.millis + period) / 500 - p.half) := by
  obtain ⟨half, phase⟩ := inStep
  have started := offset_next_beyond later
  have counted : p.offset period = p.millis - 500 * p.half - p.samples * period := rfl
  refine ⟨by omega, by omega, by omega, by omega, fun long => ?_, ?_, by omega, ?_⟩
  · have alone : (p.samples : Int) * period < 1 * period := by omega
    have none := lt_of_mul_lt_mul_right alone positive.le
    omega
  · rw [started, counted, add_mul, one_mul]
    omega
  · rw [next_beyond later]
    push_cast
    rfl

theorem InStep.next (inStep : p.InStep period) : (p.next period).InStep period := by
  refine ⟨by rw [half_next, millis_next], ?_⟩
  by_cases same : (p.millis + period) / 500 = p.half
  · rw [offset_next_within same]
    exact inStep.offset_nonneg
  · rw [offset_next_beyond same]
    omega

theorem InStep.after (inStep : p.InStep period) (n : Nat) : (p.after period n).InStep period := by
  induction n with
  | zero => exact inStep
  | succ n ih => exact ih.next

theorem after_next (p : Pace K) (period : Int) (n : Nat) :
    (p.next period).after period n = p.after period (n + 1) := by
  induction n with
  | zero => rfl
  | succ n ih =>
    rw [after, ih]
    rfl

theorem millis_after (p : Pace K) (period : Int) (n : Nat) :
    (p.after period n).millis = p.millis + n * period := by
  induction n with
  | zero => rw [after, Nat.cast_zero, zero_mul, add_zero]
  | succ n ih =>
    rw [after, millis_next, ih]
    push_cast
    ring

/-- No sample is in an earlier half second than the one that was counted. -/
theorem half_after_le (late : 0 ≤ period) (millis : Int) (n : Nat) :
    ((start millis : Pace K).after period n).half ≤
      (((start millis : Pace K).after period n).millis + period) / 500 := by
  cases n with
  | zero =>
    change 2 * (millis / 1000) ≤ (millis + period) / 500
    omega
  | succ n =>
    rw [after, half_next, millis_next]
    omega

end

/-! ### What is measured, and the true rate -/

namespace Measured

variable {p : Pace K} {period count halves : Int}

theorem period_pos (measured : p.Measured period count halves) : 0 < period :=
  measured.halves_pos.trans_le measured.halves_le

/-- A period that fits keeps its offset. -/
theorem offset_eq (measured : p.Measured period count halves) (inStep : p.InStep period)
    (fits : period ∣ 500 ∧ p.offset period < period ∨ 500 ∣ period) :
    (p.next period).offset period = p.offset period := by
  have gain := measured.offset
  have phase := inStep.offset_nonneg
  have nextPhase := inStep.next.offset_nonneg
  rcases fits with ⟨divides, before⟩ | multiple
  · have whole : period ∣ count * period - 500 * halves :=
      dvd_sub (dvd_mul_left _ _) (divides.mul_right _)
    have early := measured.offset_lt
    have none := Int.eq_zero_of_abs_lt_dvd whole (by rw [abs_lt]; constructor <;> linarith)
    omega
  · have whole : 500 ∣ count * period - 500 * halves :=
      dvd_sub (multiple.mul_left _) (dvd_mul_right _ _)
    have inside := inStep.offset_lt measured.period_pos
    have nextInside := inStep.next.offset_lt measured.period_pos
    have none := Int.eq_zero_of_abs_lt_dvd whole (by rw [abs_lt]; constructor <;> linarith)
    omega

theorem fits_of_offset_eq (measured : p.Measured period count halves)
    (same : (p.next period).offset period = p.offset period) : period ∣ 500 ∨ 500 ∣ period := by
  have gain : count * period = 500 * halves := by linarith [measured.offset]
  rcases le_total period 500 with short | long
  · rw [measured.halves_short short, mul_one] at gain
    exact .inl (Dvd.intro_left count gain)
  · rw [measured.count_long long, one_mul] at gain
    exact .inr (Dvd.intro halves gain.symm)

variable [LinearOrder K] [IsStrictOrderedRing K]

theorem span_pos (measured : p.Measured period count halves) : (0 : K) < halves * period := by
  exact_mod_cast mul_pos measured.halves_pos measured.period_pos

/-- What is measured is off from the true rate by what the offset gains. -/
theorem rate_eq (measured : p.Measured period count halves) :
    (2 * count / halves : K) = 1000 / period +
      2 * ((p.next period).offset period - p.offset period : Int) / (halves * period) := by
  have passed : (halves : K) ≠ 0 := by exact_mod_cast measured.halves_pos.ne'
  have every : (period : K) ≠ 0 := by exact_mod_cast measured.period_pos.ne'
  rw [measured.offset, add_sub_cancel_left]
  push_cast
  field_simp
  ring

theorem rate_of_offset_eq (measured : p.Measured period count halves)
    (same : (p.next period).offset period = p.offset period) :
    (2 * count / halves : K) = 1000 / period := by
  rw [measured.rate_eq, same, sub_self, Int.cast_zero, mul_zero, zero_div, add_zero]

theorem rate_lt (measured : p.Measured period count halves)
    (loss : (p.next period).offset period < p.offset period) :
    (2 * count / halves : K) < 1000 / period := by
  have less : (((p.next period).offset period - p.offset period : Int) : K) < 0 := by
    exact_mod_cast sub_neg.mpr loss
  rw [measured.rate_eq]
  apply add_lt_of_neg_right
  exact div_neg_of_neg_of_pos (by linarith) measured.span_pos

theorem lt_rate (measured : p.Measured period count halves)
    (gain : p.offset period < (p.next period).offset period) :
    (1000 / period + 2 / (period * period) : K) ≤ 2 * count / halves := by
  have more : (1 : K) ≤ ((p.next period).offset period - p.offset period : Int) := by
    exact_mod_cast Int.sub_pos_of_lt gain
  have few : (halves : K) ≤ period := by exact_mod_cast measured.halves_le
  have every : (0 : K) < period := by exact_mod_cast measured.period_pos
  rw [measured.rate_eq]
  apply add_le_add_right
  apply div_le_div₀ (by linarith) (by linarith) measured.span_pos
  exact mul_le_mul_of_nonneg_right few every.le

end Measured

/-! ### Periods that fit -/

section

variable [LinearOrder K] [IsStrictOrderedRing K] {p : Pace K} {period : Int}

/-- The measured rate is on its way to the true one. -/
structure Settles (p : Pace K) (period : Int) : Prop where
  inStep : p.InStep period
  rate_le : p.rate ≤ 1000 / period
  /-- The offset is one that comes again, or the rate is below that of every half second. -/
  early : p.offset period < period ∨ p.rate ≤ 2

/-- What is measured is between the rate so far and the true one.  The offset is kept, but for a first
one that is beyond those that come later. -/
theorem Settles.measured_between (settles : p.Settles period) {count halves : Int}
    (measured : p.Measured period count halves) (fits : period ∣ 500 ∨ 500 ∣ period) :
    p.rate ≤ 2 * count / halves ∧ (2 * count / halves : K) ≤ 1000 / period := by
  obtain ⟨inStep, most, early⟩ := settles
  by_cases kept : (p.next period).offset period = p.offset period
  · rw [measured.rate_of_offset_eq kept]
    exact ⟨most, le_rfl⟩
  · have late : period ∣ 500 ∧ period ≤ p.offset period := by
      rcases fits with divides | multiple
      · exact ⟨divides, not_lt.mp fun before =>
          kept (measured.offset_eq inStep (.inl ⟨divides, before⟩))⟩
      · exact absurd (measured.offset_eq inStep (.inr multiple)) kept
    have low : p.rate ≤ 2 := early.resolve_left late.2.not_gt
    have one : halves = 1 := measured.halves_short (Int.le_of_dvd (by norm_num) late.1)
    have some : (1 : K) ≤ count := by exact_mod_cast measured.count_pos
    refine ⟨?_, (measured.rate_lt (measured.offset_lt.trans_le late.2)).le⟩
    rw [one, Int.cast_one, div_one]
    linarith

theorem Settles.next (settles : p.Settles period) (positive : 0 < period)
    (fits : period ∣ 500 ∨ 500 ∣ period) :
    p.rate ≤ (p.next period).rate ∧ (p.next period).Settles period := by
  by_cases same : (p.millis + period) / 500 = p.half
  · have offset := offset_next_within same
    have rate : (p.next period).rate = p.rate := by rw [next_within same]
    refine ⟨rate.ge, settles.inStep.next, ?_, ?_⟩
    · rw [rate]
      exact settles.rate_le
    · rw [offset, rate]
      exact settles.early
  · have measured := settles.inStep.measured positive same
    obtain ⟨above, below⟩ := settles.measured_between measured fits
    have smoothed := measured.rate
    refine ⟨?_, settles.inStep.next, ?_, .inl measured.offset_lt⟩
    · rw [smoothed]
      linarith
    · rw [smoothed]
      linarith [settles.rate_le]

theorem Settles.after (settles : p.Settles period) (positive : 0 < period)
    (fits : period ∣ 500 ∨ 500 ∣ period) (n : Nat) : (p.after period n).Settles period := by
  induction n with
  | zero => exact settles
  | succ n ih => exact (ih.next positive fits).2

end

/-! ### Periods that do not fit -/

/-- A sequence of integers that keeps changing below a bound keeps falling. -/
theorem exists_lt_of_changes {f : Nat → Int} {bound : Int} (below : ∀ k, f k < bound)
    (changes : ∀ k, ∃ j, k ≤ j ∧ f (j + 1) ≠ f j) (k : Nat) : ∃ j, k ≤ j ∧ f (j + 1) < f j := by
  by_contra never
  push Not at never
  have grows (j : Nat) (later : k ≤ j) (i : Nat) (next : j ≤ i) : f j ≤ f i := by
    induction i, next using Nat.le_induction with
    | base => exact le_rfl
    | succ i next ih => exact ih.trans (never i (later.trans next))
  have exceeds (n : Nat) : ∃ j, k ≤ j ∧ f k + n ≤ f j := by
    induction n with
    | zero => exact ⟨k, le_rfl, by simp⟩
    | succ n ih =>
      obtain ⟨j, later, most⟩ := ih
      obtain ⟨i, next, changed⟩ := changes j
      have step := lt_of_le_of_ne (never i (later.trans next)) changed.symm
      have so := grows j later i next
      exact ⟨i + 1, by omega, by push_cast; omega⟩
  obtain ⟨j, _, beyond⟩ := exceeds (bound - f k).toNat
  have inside := below j
  omega

section

variable {p : Pace K} {period : Int}

/-- Sooner or later the offset changes, as some half second comes to its end. -/
theorem exists_offset_ne (positive : 0 < period) (inStep : p.InStep period)
    (unfit : ¬(period ∣ 500 ∨ 500 ∣ period)) (k : Nat) :
    ∃ j, k ≤ j ∧ (p.after period (j + 1)).offset period ≠ (p.after period j).offset period := by
  by_contra never
  push Not at never
  have within (n : Nat) : (p.after period (k + n)).half = (p.after period k).half := by
    induction n with
    | zero => rfl
    | succ n ih =>
      rw [← add_assoc, after, half_next, ← ih]
      by_contra beyond
      have measured := (inStep.after (k + n)).measured positive beyond
      exact unfit (measured.fits_of_offset_eq (never (k + n) (Nat.le_add_right k n)))
  have far := within 500
  rw [(inStep.after _).half, (inStep.after _).half, millis_after, millis_after] at far
  push_cast at far
  rw [add_mul] at far
  omega

theorem InStep.measured_of_offset_ne (inStep : p.InStep period) (positive : 0 < period)
    (changed : (p.next period).offset period ≠ p.offset period) :
    ∃ count halves, p.Measured period count halves :=
  ⟨_, _, inStep.measured positive fun same => changed (offset_next_within same)⟩

theorem exists_offset_lt (positive : 0 < period) (inStep : p.InStep period)
    (unfit : ¬(period ∣ 500 ∨ 500 ∣ period)) (k : Nat) :
    ∃ j, k ≤ j ∧ (p.after period j).offset period < (p.after period (j + 1)).offset period := by
  have below (n : Nat) : -(p.after period n).offset period < 1 :=
    (neg_nonpos.mpr (inStep.after n).offset_nonneg).trans_lt one_pos
  have changes (n : Nat) : ∃ j, n ≤ j ∧
      -(p.after period (j + 1)).offset period ≠ -(p.after period j).offset period := by
    simpa only [ne_eq, neg_inj] using exists_offset_ne positive inStep unfit n
  obtain ⟨j, later, gain⟩ :=
    exists_lt_of_changes (f := fun n => -(p.after period n).offset period) below changes k
  exact ⟨j, later, neg_lt_neg_iff.mp gain⟩

variable [LinearOrder K] [IsStrictOrderedRing K]

/-- A later sample measures less than the true rate, and the rates before it are no higher. -/
theorem rate_lt_of_monotone (positive : 0 < period) (inStep : p.InStep period)
    (unfit : ¬(period ∣ 500 ∨ 500 ∣ period))
    (rises : Monotone fun n => (p.after period n).rate) (k : Nat) :
    (p.after period k).rate < 1000 / period := by
  obtain ⟨j, later, loss⟩ :=
    exists_lt_of_changes (fun n => (inStep.after n).offset_lt positive)
      (exists_offset_ne positive inStep unfit) k
  obtain ⟨count, halves, measured⟩ := (inStep.after j).measured_of_offset_ne positive loss.ne
  have low := measured.rate_lt loss
  have next : (p.after period j).rate ≤ (p.after period (j + 1)).rate := rises (Nat.le_add_right j 1)
  have earlier : (p.after period k).rate ≤ (p.after period j).rate := rises later
  rw [after, measured.rate] at next
  linarith

/-- Another one measures more than the true rate, by so much that it takes the rates up. -/
theorem exists_rate_ge_of_monotone (positive : 0 < period) (inStep : p.InStep period)
    (counted : 0 ≤ p.rate) (unfit : ¬(period ∣ 500 ∨ 500 ∣ period))
    (rises : Monotone fun n => (p.after period n).rate) (n : Nat) :
    ∃ k, n • (4 / 5 * (2 / (period * period)) : K) ≤ (p.after period k).rate := by
  induction n with
  | zero => exact ⟨0, by rwa [zero_nsmul]⟩
  | succ n ih =>
    obtain ⟨k, high⟩ := ih
    obtain ⟨j, later, gain⟩ := exists_offset_lt positive inStep unfit k
    obtain ⟨count, halves, measured⟩ := (inStep.after j).measured_of_offset_ne positive gain.ne'
    have more := measured.lt_rate gain
    have low := rate_lt_of_monotone positive inStep unfit rises j
    have earlier : (p.after period k).rate ≤ (p.after period j).rate := rises later
    refine ⟨j + 1, ?_⟩
    rw [after, measured.rate, succ_nsmul]
    linarith

/-- At a period that does not fit some rate is below the one before. -/
theorem exists_rate_lt [Archimedean K] (positive : 0 < period) (inStep : p.InStep period)
    (counted : 0 ≤ p.rate) (unfit : ¬(period ∣ 500 ∨ 500 ∣ period)) :
    ∃ n, (p.after period (n + 1)).rate < (p.after period n).rate := by
  by_contra ordered
  push Not at ordered
  have rises : Monotone fun n => (p.after period n).rate := monotone_nat_of_le_succ ordered
  have every : (0 : K) < period := by exact_mod_cast positive
  have step : (0 : K) < 4 / 5 * (2 / (period * period)) := by positivity
  obtain ⟨n, far⟩ := Archimedean.arch (1000 / period : K) step
  obtain ⟨k, high⟩ := exists_rate_ge_of_monotone positive inStep counted unfit rises n
  have low := rate_lt_of_monotone positive inStep unfit rises k
  exact absurd low (far.trans high).not_gt

end

/-! ### The first sample -/

section

variable {period : Int}

theorem inStep_first (millis period : Int) : ((start millis : Pace K).next period).InStep period := by
  refine ⟨by rw [half_next, millis_next], ?_⟩
  by_cases same : (millis + period) / 500 = 2 * (millis / 1000)
  · rw [offset_next_within same, offset, start, Nat.cast_zero, zero_mul]
    dsimp only
    omega
  · rw [offset_next_beyond same]
    omega

variable [LinearOrder K] [IsStrictOrderedRing K]

/-- The first sample measures one sample a half second, or less. -/
theorem rate_first (positive : 0 < period) (millis : Int) :
    0 ≤ ((start millis : Pace K).next period).rate ∧
      ((start millis : Pace K).next period).rate ≤ 2 ∧
      (period ∣ 500 ∨ 500 ∣ period → ((start millis : Pace K).next period).rate ≤ 1000 / period) := by
  have every : (0 : K) < period := by exact_mod_cast positive
  by_cases same : (millis + period) / 500 = 2 * (millis / 1000)
  · rw [next_within same]
    exact ⟨le_rfl, zero_le_two, fun _ => div_nonneg (by norm_num) every.le⟩
  · have rate : ((start millis : Pace K).next period).rate =
        8 / 5 / ((millis + period) / 500 - 2 * (millis / 1000) : Int) := by
      rw [next_beyond same, start]
      dsimp only
      rw [zero_mul, add_zero, div_mul_eq_mul_div]
      norm_num
    have one : 1 ≤ (millis + period) / 500 - 2 * (millis / 1000) := by omega
    have fits : period ∣ 500 ∨ 500 ∣ period →
        period ≤ 500 * ((millis + period) / 500 - 2 * (millis / 1000)) := by
      rintro (divides | ⟨multiple, rfl⟩)
      · have short := Int.le_of_dvd (by norm_num) divides
        omega
      · omega
    rw [rate]
    generalize (millis + period) / 500 - 2 * (millis / 1000) = halves at one fits
    have least : (1 : K) ≤ halves := by exact_mod_cast one
    have passed : (0 : K) < halves := one_pos.trans_le least
    refine ⟨div_nonneg (by norm_num) passed.le, ?_, fun fit => ?_⟩
    · rw [div_le_iff₀ passed]
      linarith
    · have whole : (period : K) ≤ 500 * halves := by exact_mod_cast fits fit
      rw [div_le_div_iff₀ passed every]
      linarith

/-- From the first sample on the rates are in order exactly if the period fits. -/
theorem rates_ordered_iff [Archimedean K] (positive : 0 < period) (millis : Int) :
    (∀ n, ((start millis : Pace K).after period (n + 1)).rate ≤
        ((start millis : Pace K).after period (n + 2)).rate) ↔ period ∣ 500 ∨ 500 ∣ period := by
  have inStep := inStep_first (K := K) millis period
  obtain ⟨counted, low, most⟩ := rate_first (K := K) positive millis
  constructor
  · intro ordered
    by_contra unfit
    obtain ⟨n, falls⟩ := exists_rate_lt positive inStep counted unfit
    rw [after_next, after_next] at falls
    exact absurd (ordered n) falls.not_ge
  · intro fits n
    have settles : ((start millis : Pace K).next period).Settles period :=
      ⟨inStep, most fits, .inr low⟩
    have later := ((settles.after positive fits n).next positive fits).1
    rwa [after_next] at later

end

end Pace

end RequestSigning
