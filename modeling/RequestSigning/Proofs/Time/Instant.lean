import RequestSigning.Time.Instant

/-!
# Sums and differences of instants

`elapsed` counts an instant in nanoseconds, and what `add?` does is told on that count: a sum is
exact (`elapsed_of_add?`), it is never before the instant it was added to (`not_before_of_add?`), and
there is none where it would be beyond the last instant (`add?_eq_none_iff`).
-/

namespace RequestSigning

theorem Duration.nanos_eq (d : Duration) :
    d.nanos = d.seconds * nanosPerSecond + d.subsecond ∧ d.subsecond < nanosPerSecond :=
  ⟨(Nat.div_add_mod' d.nanos nanosPerSecond).symm, Nat.mod_lt _ (by decide)⟩

namespace Instant

/-- Nanoseconds since 1970.  A leap second counts as part of the second before it. -/
def elapsed (t : Instant) : Int :=
  t.seconds * nanosPerSecond + (if t.isLeap then t.nanos - nanosPerSecond else t.nanos : Nat)

variable {t u : Instant} {d : Duration}

theorem isLeap_iff : t.isLeap = true ↔ nanosPerSecond ≤ t.nanos := decide_eq_true_iff

theorem isLeap_eq_false_iff : t.isLeap = false ↔ t.nanos < nanosPerSecond := by
  rw [← Bool.not_eq_true, isLeap_iff, Nat.not_le]

theorem elapsed_of_plain (plain : t.isLeap = false) :
    t.elapsed = t.seconds * nanosPerSecond + t.nanos := by
  rw [elapsed, plain]
  rfl

theorem elapsed_of_leap (leap : t.isLeap = true) :
    t.elapsed = t.seconds * nanosPerSecond + t.nanos - nanosPerSecond := by
  have past := isLeap_iff.mp leap
  rw [elapsed, leap, if_pos rfl]
  omega

theorem elapsed_last : last.elapsed = 8210266876799999999999 := rfl

/-- The instant of a count, if there is one: its seconds and the rest. -/
def ofElapsed? (n : Int) : Option Instant :=
  ofFields? (n / nanosPerSecond) (n % nanosPerSecond).toNat

theorem of_ofFields? {seconds : Int} {nanos : Nat} (known : ofFields? seconds nanos = some t) :
    t.seconds = seconds ∧ t.nanos = nanos := by
  unfold ofFields? at known
  split at known
  · cases known
    exact ⟨rfl, rfl⟩
  · cases known

theorem of_ofElapsed? {n : Int} (known : ofElapsed? n = some t) :
    t.isLeap = false ∧ t.elapsed = n := by
  obtain ⟨seconds, nanos⟩ := of_ofFields? known
  have plain : t.isLeap = false := by
    rw [isLeap_eq_false_iff]
    unfold nanosPerSecond at *
    omega
  refine ⟨plain, ?_⟩
  rw [elapsed_of_plain plain]
  unfold nanosPerSecond at *
  omega

theorem ofElapsed?_eq_none_iff {n : Int} :
    ofElapsed? n = none ↔ n < minSeconds * nanosPerSecond ∨ last.elapsed < n := by
  rw [elapsed_last]
  unfold ofElapsed? ofFields? nanosPerSecond minSeconds maxSeconds
  split
  · simp only [reduceCtorEq, false_iff]
    omega
  · simp only [true_iff]
    omega

/-- The sum is within the same leap second. -/
def StaysIn (t : Instant) (d : Duration) : Prop :=
  t.isLeap = true ∧ t.nanos + d.nanos < 2 * nanosPerSecond

instance (t : Instant) (d : Duration) : Decidable (t.StaysIn d) :=
  inferInstanceAs (Decidable (_ ∧ _))

theorem staysIn_iff : t.StaysIn d ↔
    t.isLeap = true ∧ d.seconds = 0 ∧ t.nanos + d.subsecond < 2 * nanosPerSecond := by
  obtain ⟨whole, part⟩ := d.nanos_eq
  refine and_congr_right fun leap => ?_
  have past := isLeap_iff.mp leap
  unfold nanosPerSecond at *
  omega

/-- Behind the end of a leap second, and from any other second, sums are those of counts. -/
theorem add?_eq (t : Instant) (d : Duration) :
    t.add? d = if t.StaysIn d then ofFields? t.seconds (t.nanos + d.nanos)
      else ofElapsed? (t.elapsed + d.nanos) := by
  obtain ⟨whole, part⟩ := d.nanos_eq
  have inLeap : (t.isLeap && d.seconds == 0 && decide (t.nanos + d.subsecond < 2 * nanosPerSecond)) =
      decide (t.StaysIn d) := by
    rw [Bool.eq_iff_iff, decide_eq_true_iff, staysIn_iff]
    simp [and_assoc]
  unfold add?
  dsimp only
  rw [inLeap]
  by_cases stays : t.StaysIn d
  · have short := (staysIn_iff.mp stays).2.1
    rw [short, Nat.zero_mul, Nat.zero_add] at whole
    rw [if_pos (decide_eq_true stays), if_pos stays, whole]
  · rw [if_neg (by simpa using stays), if_neg stays, ofElapsed?]
    unfold elapsed
    congr 1
    · unfold nanosPerSecond at *
      omega
    · unfold nanosPerSecond at *
      omega

theorem add?_eq_none_iff : t.add? d = none ↔ last.elapsed < t.elapsed + d.nanos := by
  obtain ⟨least, most, _⟩ := t.inRange
  rw [add?_eq]
  split
  · rename_i stays
    obtain ⟨leap, within⟩ := stays
    have kept : ofFields? t.seconds (t.nanos + d.nanos) ≠ none := by
      rw [ofFields?, dif_pos ⟨least, most, within⟩]
      exact nofun
    rw [elapsed_last, elapsed_of_leap leap]
    unfold nanosPerSecond maxSeconds at *
    exact ⟨fun none => absurd none kept, fun beyond => by omega⟩
  · have first : minSeconds * nanosPerSecond ≤ t.elapsed + d.nanos := by
      unfold elapsed nanosPerSecond minSeconds at *
      omega
    rw [ofElapsed?_eq_none_iff]
    exact or_iff_right (Int.not_lt.mpr first)

theorem elapsed_of_add? (sum : t.add? d = some u) : u.elapsed = t.elapsed + d.nanos := by
  rw [add?_eq] at sum
  split at sum
  · rename_i stays
    obtain ⟨seconds, nanos⟩ := of_ofFields? sum
    have past := isLeap_iff.mp stays.1
    have leap : u.isLeap = true := isLeap_iff.mpr (by omega)
    rw [elapsed_of_leap leap, elapsed_of_leap stays.1, seconds, nanos]
    omega
  · exact (of_ofElapsed? sum).2

theorem plain_of_add? (plain : t.isLeap = false) (sum : t.add? d = some u) :
    u.isLeap = false := by
  have leaves : ¬t.StaysIn d := fun stays => Bool.false_ne_true (plain.symm.trans stays.1)
  rw [add?_eq, if_neg leaves] at sum
  exact (of_ofElapsed? sum).1

theorem before_eq_false_iff : u.before t = false ↔
    t.seconds < u.seconds ∨ t.seconds = u.seconds ∧ t.nanos ≤ u.nanos := by
  rw [← Bool.not_eq_true]
  simp only [before, Bool.or_eq_true, Bool.and_eq_true, decide_eq_true_iff, beq_iff_eq]
  omega

theorem not_before_self (t : Instant) : t.before t = false :=
  before_eq_false_iff.mpr (.inr ⟨rfl, Nat.le_refl _⟩)

/-- What comes after an instant comes after those that are no later. -/
theorem before_of_not_before {v : Instant} (forward : u.before t = false)
    (ahead : u.before v = true) : t.before v = true := by
  cases behind : t.before v with
  | true => rfl
  | false =>
    have never : u.before v = false := by
      rw [before_eq_false_iff] at behind forward ⊢
      omega
    exact never.symm.trans ahead

/-- A sum is not earlier, not even where it leaves a leap second. -/
theorem not_before_of_add? (sum : t.add? d = some u) : u.before t = false := by
  rw [before_eq_false_iff]
  rw [add?_eq] at sum
  split at sum
  · obtain ⟨seconds, nanos⟩ := of_ofFields? sum
    exact .inr ⟨seconds.symm, by omega⟩
  · rename_i leaves
    obtain ⟨plain, count⟩ := of_ofElapsed? sum
    have within := isLeap_eq_false_iff.mp plain
    rw [elapsed_of_plain plain] at count
    cases leap : t.isLeap with
    | false =>
      rw [elapsed_of_plain leap] at count
      have start := isLeap_eq_false_iff.mp leap
      unfold nanosPerSecond at *
      omega
    | true =>
      -- The span reaches the end of the leap second, and so the next second.
      have reaches : 2 * nanosPerSecond ≤ t.nanos + d.nanos :=
        Nat.not_lt.mp fun short => leaves ⟨leap, short⟩
      rw [elapsed_of_leap leap] at count
      unfold nanosPerSecond at *
      omega

/-- The calendar is shorter than a signed count of milliseconds. -/
theorem le_maxSigned_of_add? (sum : t.add? d = some u) : d.nanos ≤ Duration.maxSigned := by
  have within : ¬last.elapsed < t.elapsed + d.nanos := by
    rw [← add?_eq_none_iff, sum]
    exact nofun
  have start := t.inRange.1
  rw [elapsed_last] at within
  unfold elapsed nanosPerSecond minSeconds at *
  unfold Duration.maxSigned
  omega

/-- So whatever can be added can be added as a signed count. -/
theorem addSigned?_eq (t : Instant) (d : Duration) : t.addSigned? d = t.add? d := by
  unfold addSigned?
  split
  · rfl
  · rename_i long
    cases sum : t.add? d with
    | none => rfl
    | some u => exact absurd (le_maxSigned_of_add? sum) long

/-! ### Differences -/

theorem nanosSince_of_plain (plain : t.isLeap = false) (start : u.isLeap = false) :
    t.nanosSince u = t.elapsed - u.elapsed := by
  have split : ∀ v : Instant, v.days * secondsPerDay + v.secondOfDay = v.seconds :=
    fun v => Int.ediv_mul_add_emod v.seconds secondsPerDay
  have later := split t
  have earlier := split u
  rw [elapsed_of_plain plain, elapsed_of_plain start]
  unfold nanosSince
  simp only [plain, start, Bool.false_eq_true, and_false, if_false]
  unfold nanosPerSecond secondsPerDay at *
  omega

theorem secondsSince_of_plain (plain : t.isLeap = false) (start : u.isLeap = false)
    (order : u.elapsed ≤ t.elapsed) :
    t.secondsSince u = (t.elapsed - u.elapsed) / nanosPerSecond := by
  rw [secondsSince, nanosSince_of_plain plain start]
  exact Int.tdiv_eq_ediv_of_nonneg (Int.sub_nonneg_of_le order)

end Instant

end RequestSigning
