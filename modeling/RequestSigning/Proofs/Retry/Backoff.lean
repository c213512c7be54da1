import Mathlib.Algebra.Group.Nat.Defs
import RequestSigning.Retry.Backoff

/-!
# The schedule of a backoff

`nanos_bound`: a delay is the doubled one up to the cap, whether or not that product is a duration.
But it doubles no more than thirty-one times, and `delay_eq_min_iff` says where that shows.
-/

namespace RequestSigning.Backoff

/-- A product that is no duration is longer than the cap, and so the cap is the lesser one. -/
theorem nanos_bound (b : Backoff) (attempt : Nat) :
    (b.bound attempt).nanos = min b.cap.nanos (b.base.nanos * 2 ^ min (attempt - 1) 31) := by
  unfold bound
  cases product : b.base.mul? (Nat.pow 2 (Nat.min (attempt - 1) 31)) with
  | some d =>
    calc (d.min b.cap).nanos
      _ = min d.nanos b.cap.nanos := Duration.nanos_min d b.cap
      _ = min b.cap.nanos d.nanos := Nat.min_comm _ _
      _ = _ := by rw [Duration.nanos_of_mul? product]; rfl
  | none =>
    have long := (Duration.mul?_eq_none_iff _ _).mp product
    exact (Nat.min_eq_left (Nat.le_trans b.cap.le_max (Nat.le_of_lt long))).symm

/-- Where the doubling stops below the cap, the delay is less than it would be. -/
theorem min_pow_eq_iff (cap base attempt : Nat) :
    min cap (base * 2 ^ min (attempt - 1) 31) = min cap (base * 2 ^ (attempt - 1)) ↔
      attempt ≤ 32 ∨ base = 0 ∨ cap ≤ base * 2 ^ 31 := by
  by_cases early : attempt ≤ 32
  · have same : min (attempt - 1) 31 = attempt - 1 := Nat.min_eq_left (by omega)
    rw [same]
    exact ⟨fun _ => .inl early, fun _ => rfl⟩
  · have stopped : min (attempt - 1) 31 = 31 := Nat.min_eq_right (by omega)
    rw [stopped]
    obtain rfl | some := Nat.eq_zero_or_pos base
    · simp
    have twice : base * 2 ^ 31 * 2 ≤ base * 2 ^ (attempt - 1) := by
      rw [Nat.mul_assoc, ← Nat.pow_succ]
      exact Nat.mul_le_mul_left base (Nat.pow_le_pow_right (by decide) (by omega))
    have reached : 0 < base * 2 ^ 31 := Nat.mul_pos some (by decide)
    omega

/-- Without jitter, the delay behind an attempt is that of the schedule which doubles for ever if
and only if the attempt is one of the first thirty-two, there is nothing to double, or the cap is
reached by then. -/
theorem delay_eq_min_iff (base cap : Duration) (draw : Jitter) (attempt : Nat) :
    let delay := (Backoff.mk base cap false).delay draw attempt
    delay.nanos = min cap.nanos (base.nanos * 2 ^ min (attempt - 1) 31) ∧
      (delay.nanos = min cap.nanos (base.nanos * 2 ^ (attempt - 1)) ↔
        attempt ≤ 32 ∨ base.nanos = 0 ∨ cap.nanos ≤ base.nanos * 2 ^ 31) := by
  intro delay
  have nanos : delay.nanos = min cap.nanos (base.nanos * 2 ^ min (attempt - 1) 31) :=
    nanos_bound ⟨base, cap, false⟩ attempt
  exact ⟨nanos, nanos ▸ min_pow_eq_iff cap.nanos base.nanos attempt⟩

/-- A nanosecond never comes to twenty seconds. -/
theorem delay_ne_min_nanosecond :
    let delay := (Backoff.mk ⟨1, by decide⟩ ⟨20000000000, by decide⟩ false).delay (fun _ d => d) 64
    delay.nanos = 2147483648 ∧ delay.nanos ≠ min 20000000000 (1 * 2 ^ (64 - 1)) := by
  intro delay
  have nanos : delay.nanos = 2147483648 := rfl
  exact ⟨nanos, by rw [nanos]; decide⟩

end RequestSigning.Backoff
