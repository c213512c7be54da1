import RequestSigning.Proofs.Retry.Bounds
import RequestSigning.Proofs.Retry.Pace

/-!
# Steady traffic

The limiter measures successes that come every so many milliseconds as a `Pace` does (`Follows`), so
what it reports of them is known sample by sample (`steadyReports_eq`).  At most periods the rates go
up and down, since some half seconds have one sample more than others.
-/

namespace RequestSigning

/-- The measured rate that is reported of a sample. -/
def LimiterEntry.measured? {α : Type} (entry : LimiterEntry α) : Option α :=
  match entry.answer with
  | .rates measured _ => some measured
  | _ => none

namespace Limiter

section

variable {α : Type} [RateNumber α] (s : Limiter α) (now : α)

theorem measure_of_later {bucket : α}
    (counted : RateNumber.floor (now * RateNumber.ofInt 2) / RateNumber.ofInt 2 = bucket)
    (later : RateNumber.less s.bucket bucket = true) :
    s.measure now =
      { s with
        measuredRate := RateNumber.ofInt (s.samples + 1 : Nat) / (bucket - s.bucket) * smoothing +
          s.measuredRate * (RateNumber.ofInt 1 - smoothing)
        samples := 0
        bucket := bucket } := by
  subst counted
  exact if_pos later

theorem measure_of_not_later {bucket : α}
    (counted : RateNumber.floor (now * RateNumber.ofInt 2) / RateNumber.ofInt 2 = bucket)
    (kept : ¬RateNumber.less s.bucket bucket = true) :
    s.measure now = { s with samples := s.samples + 1 } := by
  subst counted
  exact if_neg kept

theorem tally_sample (throttled : Bool) :
    (s.sample now throttled).1.tally = (s.measure now).tally := by
  cases throttled with
  | false => exact tally_settle _ now _
  | true => exact tally_settle ((s.measure now).throttle now).2 now _

end

section

variable {K : Type} [Field K]

/-- What a clock reads, in seconds. -/
def reading (millis : Int) : K := millis / 1000

/-- Successful samples, one every `period` milliseconds after `start`. -/
def steadySamples (start period : Int) (n : Nat) : List (K × LimiterCall K) :=
  (List.range n).map fun i => (reading (start + (i + 1 : Nat) * period), .sample false)

theorem steadySamples_succ (start period : Int) (n : Nat) :
    (steadySamples start period (n + 1) : List (K × LimiterCall K)) =
      steadySamples start period n ++ [(reading (start + (n + 1 : Nat) * period), .sample false)] := by
  rw [steadySamples, List.range_succ, List.map_append]
  rfl

variable [LinearOrder K] [FloorRing K] (root : K → K) {s : Limiter K} {p : Pace K}

/-- What is reported of the samples, one by one. -/
def steadyReports (start period : Int) (n : Nat) : List K :=
  letI := RateNumber.ofField root
  ((new (reading start)).history (steadySamples start period n)).filterMap (·.measured?)

variable [IsStrictOrderedRing K]

theorem floor_reading (millis : Int) : ⌊(reading millis : K)⌋ = millis / 1000 := by
  have floor := Int.floor_div_natCast (millis : K) 1000
  rwa [Int.floor_intCast] at floor

theorem bucket_reading (millis : Int) :
    (⌊(reading millis : K) * (2 : Int)⌋ / (2 : Int) : K) = (millis / 500 : Int) / 2 := by
  have floor := Int.floor_div_natCast (millis : K) 500
  have twice : (reading millis : K) * (2 : Int) = millis / (500 : Nat) := by
    rw [reading]
    push_cast
    ring
  rw [twice, floor, Int.floor_intCast, Nat.cast_ofNat, Int.cast_ofNat]

/-- The limiter has measured what the pace says, of samples up to the same time. -/
def Follows (s : Limiter K) (p : Pace K) : Prop :=
  s.tally = (p.rate, p.samples, (p.half : K) / (2 : Int))

omit [LinearOrder K] [FloorRing K] [IsStrictOrderedRing K] in
theorem follows_iff :
    s.Follows p ↔ s.measuredRate = p.rate ∧ s.samples = p.samples ∧ s.bucket = (p.half : K) / 2 := by
  rw [Follows, tally, Prod.mk.injEq, Prod.mk.injEq, Int.cast_ofNat]

theorem follows_new (millis : Int) :
    (@new K (.ofField root) (reading millis)).Follows (Pace.start millis) := by
  change (((0 : Int) : K), 0, ((⌊(reading millis : K)⌋ : Int) : K)) = (0, 0, _)
  rw [floor_reading, Int.cast_zero, Pace.start]
  push_cast
  rw [mul_div_cancel_left₀ _ two_ne_zero]

theorem follows_measure_within (follows : s.Follows p) {period : Int}
    (same : (p.millis + period) / 500 = p.half) :
    (@measure K (.ofField root) s (reading (p.millis + period))).Follows (p.next period) := by
  obtain ⟨rate, samples, last⟩ := follows_iff.mp follows
  have kept : ¬@RateNumber.less K (.ofField root) s.bucket
      (((p.millis + period) / 500 : Int) / 2 : K) = true := by
    rw [RateNumber.exact_less, last, same]
    exact lt_irrefl _
  rw [@measure_of_not_later K (.ofField root) s _ _ (bucket_reading _) kept, Pace.next_within same]
  exact follows_iff.mpr ⟨rate, congrArg Nat.succ samples, last⟩

theorem follows_measure_beyond (follows : s.Follows p) {period : Int}
    (later : p.half < (p.millis + period) / 500) :
    (@measure K (.ofField root) s (reading (p.millis + period))).Follows (p.next period) := by
  obtain ⟨rate, samples, last⟩ := follows_iff.mp follows
  have passed : @RateNumber.less K (.ofField root) s.bucket
      (((p.millis + period) / 500 : Int) / 2 : K) = true := by
    rw [RateNumber.exact_less, last, div_lt_div_iff_of_pos_right zero_lt_two, Int.cast_lt]
    exact later
  rw [@measure_of_later K (.ofField root) s _ _ (bucket_reading _) passed,
    Pace.next_beyond later.ne']
  refine follows_iff.mpr ⟨?_, rfl, rfl⟩
  change (((s.samples + 1 : Nat) : Int) : K) / (((p.millis + period) / 500 : Int) / 2 - s.bucket) *
    (((8 : Nat) : K) / 10) + s.measuredRate * (((1 : Int) : K) - ((8 : Nat) : K) / 10) = _
  rw [rate, samples, last, ← sub_div, div_div_eq_mul_div]
  push_cast
  ring

/-- One more sample is measured as the pace says, if the clock has not gone back. -/
theorem follows_measure (follows : s.Follows p) {period : Int}
    (order : p.half ≤ (p.millis + period) / 500) :
    (@measure K (.ofField root) s (reading (p.millis + period))).Follows (p.next period) := by
  rcases order.eq_or_lt with same | later
  · exact follows_measure_within root follows same.symm
  · exact follows_measure_beyond root follows later

/-- Behind so many samples the limiter has measured what the pace says. -/
theorem follows_reached {period : Int} (positive : 0 < period) (start : Int) (n : Nat) :
    (reached root (reading start) (steadySamples start period n)).Follows
      ((Pace.start start).after period n) := by
  induction n with
  | zero => exact follows_new root start
  | succ n ih =>
    have measured := follows_measure root ih (Pace.half_after_le positive.le start n)
    have read : ((Pace.start start : Pace K).after period n).millis + period =
        start + (n + 1 : Nat) * period := by
      rw [Pace.millis_after, Pace.start]
      push_cast
      ring
    rw [read] at measured
    unfold Follows
    rw [steadySamples_succ, reached_sample, @tally_sample K (.ofField root)]
    exact measured

theorem steadyReports_eq {period : Int} (positive : 0 < period) (start : Int) (n : Nat) :
    steadyReports root start period n =
      (List.range n).map fun i => ((Pace.start start : Pace K).after period (i + 1)).rate := by
  induction n with
  | zero => rfl
  | succ n ih =>
    have last : (reached root (reading start) (steadySamples start period (n + 1))).measuredRate =
        ((Pace.start start : Pace K).after period (n + 1)).rate :=
      congrArg Prod.fst (follows_reached root positive start (n + 1))
    rw [List.range_succ, List.map_append, ← ih, List.map_singleton, ← last,
      steadyReports, steadySamples_succ, reached_sample, @history_append K (.ofField root),
      List.filterMap_append]
    rfl

/-- Every sample is reported.  On a clock that moves on by the same period with every success, no
rate is reported that is below an earlier one, exactly if that many milliseconds divide half a second
or are divided by it. -/
theorem steadyReports_ordered_iff {period : Int} (positive : 0 < period) (start : Int) :
    (∀ n, (steadyReports root start period n).length = n) ∧
      ((∀ n, (steadyReports root start period n).Pairwise (· ≤ ·)) ↔
        period ∣ 500 ∨ 500 ∣ period) := by
  have reports := steadyReports_eq root positive start
  constructor
  · intro n
    rw [reports, List.length_map, List.length_range]
  · have archimedean := FloorRing.archimedean K
    rw [← Pace.rates_ordered_iff (K := K) positive start]
    constructor
    · intro ordered n
      have pair := List.pairwise_iff_getElem.mp (ordered (n + 2)) n (n + 1)
      simpa [reports] using pair
    · intro ordered n
      have rises : Monotone fun i => ((Pace.start start : Pace K).after period (i + 1)).rate :=
        monotone_nat_of_le_succ ordered
      rw [reports, List.pairwise_map]
      exact List.pairwise_lt_range.imp fun before => rises before.le

end

/-- With a success every hundred milliseconds the rates come up to ten a second. -/
theorem steadyReports_ordered_hundred :
    (0 : Int) < 100 ∧ (steadyReports (id : Rat → Rat) 0 100 10).Pairwise (· ≤ ·) ∧
      steadyReports id 0 100 10 = [(0 : Rat), 0, 0, 0, 8, 8, 8, 8, 8, 48 / 5] := by
  have positive : (0 : Int) < 100 := by norm_num
  obtain ⟨_, ordered⟩ := steadyReports_ordered_iff (id : Rat → Rat) positive 0
  have divides : (100 : Int) ∣ 500 ∨ (500 : Int) ∣ 100 := .inl ⟨5, by norm_num⟩
  exact ⟨positive, ordered.mpr divides 10, by decide +kernel⟩

/-- With one every three hundred, two are counted at 600 milliseconds and at 1200, but one at 1500. -/
theorem steadyReports_falling :
    steadyReports id 0 300 5 = [(0 : Rat), 16 / 5, 16 / 5, 96 / 25, 296 / 125] ∧
      ¬(steadyReports (id : Rat → Rat) 0 300 5).Pairwise (· ≤ ·) := by
  have reports : steadyReports id 0 300 5 = [(0 : Rat), 16 / 5, 16 / 5, 96 / 25, 296 / 125] := by
    decide +kernel
  refine ⟨reports, ?_⟩
  rw [reports]
  decide +kernel

end Limiter

end RequestSigning
