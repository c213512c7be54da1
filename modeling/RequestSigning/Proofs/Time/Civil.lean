import RequestSigning.Time.Civil

/-!
# Days and their dates

Four hundred years are centuries of 36524 days, spans of four years of 1461 days and years of 365
days, but for a leap day at the end of each: `DayParts`.  So `isDate_ofDays`: every day has a date
of the calendar, and `toDays_ofDays`: the date leads back to the day.
-/

namespace RequestSigning.Civil

/-- A day of four hundred years by century, span of four years, year and day of the year.  Only the
last year of a span has a day 365, and the last span of a century only in the last century. -/
structure DayParts (n century span year day : Int) : Prop where
  sum : n = 36524 * century + 1461 * span + 365 * year + day
  inEra : 0 ≤ century ∧ century ≤ 3
  inCentury : 0 ≤ span ∧ span ≤ 24
  inSpan : 0 ≤ year ∧ year ≤ 3
  inYear : 0 ≤ day ∧ day ≤ 365
  leapDay : day = 365 → year = 3 ∧ (span = 24 → century = 3)

theorem exists_dayParts {n : Int} (least : 0 ≤ n) (greatest : n < 146097) :
    ∃ century span year day, DayParts n century span year day := by
  obtain ⟨century, m, split, _, _, _, _, _⟩ : ∃ century m : Int, n = 36524 * century + m ∧
      0 ≤ century ∧ century ≤ 3 ∧ 0 ≤ m ∧ m ≤ 36524 ∧ (m = 36524 → century = 3) := by
    by_cases last : n = 146096
    · exact ⟨3, 36524, by omega⟩
    · exact ⟨n / 36524, n % 36524, by omega⟩
  obtain ⟨year, day, rest, _, _, _, _, _⟩ : ∃ year day : Int, m % 1461 = 365 * year + day ∧
      0 ≤ year ∧ year ≤ 3 ∧ 0 ≤ day ∧ day ≤ 365 ∧ (day = 365 → year = 3) := by
    by_cases last : m % 1461 = 1460
    · exact ⟨3, 365, by omega⟩
    · exact ⟨m % 1461 / 365, m % 1461 % 365, by omega⟩
  exact ⟨century, m / 1461, year, day, by constructor <;> omega⟩

/-- Without the leap days before it, the day is one of years of 365 days. -/
theorem DayParts.yearOfEra_eq {n century span year day : Int}
    (parts : DayParts n century span year day) :
    (n - n / 1460 + n / 36524 - n / 146096) / 365 = 100 * century + 4 * span + year := by
  obtain ⟨sum, _, _, _, _, _⟩ := parts
  have centuries : n / 36524 - n / 146096 = century := by
    by_cases last : n = 146096
    · subst last
      omega
    · have early : n / 146096 = 0 := by omega
      omega
  have spans : n / 1460 = 25 * century + span +
      if 1460 ≤ 24 * century + span + 365 * year + day then 1 else 0 := by
    omega
  omega

/-- The first of March of a year, in days since 1970. -/
def marchDays (year : Int) : Int := 365 * year + year / 4 - year / 100 + year / 400 - 719468

/-- The date so many days behind the first of March of a year. -/
def ofMarch (year dayOfYear : Int) : Date :=
  let fromMarch := (5 * dayOfYear + 2) / 153
  ⟨if fromMarch < 10 then year else year + 1,
    (if fromMarch < 10 then fromMarch + 3 else fromMarch - 9).toNat,
    (dayOfYear - (153 * fromMarch + 2) / 5 + 1).toNat⟩

/-- A day of a year that begins in March and may end with a leap day. -/
structure InMarchYear (year dayOfYear : Int) : Prop where
  range : 0 ≤ dayOfYear ∧ dayOfYear ≤ 365
  leapDay : dayOfYear = 365 → isLeapYear (year + 1) = true

theorem isLeapYear_iff {year : Int} :
    isLeapYear year = true ↔ year % 4 = 0 ∧ (year % 100 ≠ 0 ∨ year % 400 = 0) := by
  simp [isLeapYear]

/-- The parts of a year number, behind so many spans of four hundred years. -/
theorem DayParts.year_div {n century span year day : Int}
    (parts : DayParts n century span year day) (era : Int) {number : Int}
    (counted : number = 100 * century + 4 * span + year + era * 400) :
    number / 4 = 25 * century + span + 100 * era ∧ number / 100 = century + 4 * era ∧
      number / 400 = era := by
  obtain ⟨_, _, _, _, _, _⟩ := parts
  refine ⟨?_, ?_, ?_⟩ <;> omega

theorem DayParts.inMarchYear {n century span year day : Int}
    (parts : DayParts n century span year day) (era : Int) :
    InMarchYear (100 * century + 4 * span + year + era * 400) day := by
  obtain ⟨_, _, _, _, inYear, leapDay⟩ := parts
  refine ⟨inYear, fun last => ?_⟩
  obtain ⟨lastYear, lastSpan⟩ := leapDay last
  rw [isLeapYear_iff]
  omega

theorem exists_ofMarch (days : Int) : ∃ year dayOfYear, InMarchYear year dayOfYear ∧
    marchDays year + dayOfYear = days ∧ ofDays days = ofMarch year dayOfYear := by
  obtain ⟨century, span, year, day, parts⟩ :=
    exists_dayParts (Int.emod_nonneg (days + 719468) (by decide : (146097 : Int) ≠ 0))
      (Int.emod_lt_of_pos (days + 719468) (by decide))
  have yearOfEra := parts.yearOfEra_eq
  have inEra := parts.year_div 0 (Int.add_zero _).symm
  have inAll := parts.year_div ((days + 719468) / 146097) rfl
  have whole := Int.emod_add_ediv_mul (days + 719468) 146097
  have inside := parts.inMarchYear ((days + 719468) / 146097)
  have sum := parts.sum
  clear parts
  unfold ofDays
  dsimp only
  rw [yearOfEra]
  generalize (days + 719468) / 146097 = era at *
  generalize (days + 719468) % 146097 = n at *
  have dayOfYear : n - (365 * (100 * century + 4 * span + year) +
      (100 * century + 4 * span + year) / 4 - (100 * century + 4 * span + year) / 100) = day := by
    omega
  refine ⟨_, day, inside, ?start, ?date⟩
  case start =>
    unfold marchDays
    omega
  case date =>
    have fromMarch : 0 ≤ (5 * day + 2) / 153 ∧ (5 * day + 2) / 153 ≤ 11 := by
      have range := inside.range
      omega
    rw [dayOfYear]
    unfold ofMarch
    dsimp only
    generalize (5 * day + 2) / 153 = m at *
    by_cases early : m < 10
    · rw [if_pos early, if_pos early, if_neg (by omega), Int.add_zero]
    · rw [if_neg early, if_neg early, if_pos (by omega)]

theorem toDays_ofMarch {year dayOfYear : Int} (inside : InMarchYear year dayOfYear) :
    toDays (ofMarch year dayOfYear) = marchDays year + dayOfYear := by
  obtain ⟨⟨least, greatest⟩, _⟩ := inside
  unfold toDays ofMarch marchDays
  dsimp only
  generalize fromMarch : (5 * dayOfYear + 2) / 153 = m
  by_cases early : m < 10
  · simp only [if_pos early]
    omega
  · simp only [if_neg early]
    omega

theorem isDate_ofMarch {year dayOfYear : Int} (inside : InMarchYear year dayOfYear) :
    isDate (ofMarch year dayOfYear) = true := by
  obtain ⟨⟨least, greatest⟩, leapDay⟩ := inside
  unfold isDate ofMarch
  simp only [Bool.and_eq_true, decide_eq_true_eq]
  generalize fromMarch : (5 * dayOfYear + 2) / 153 = m
  by_cases february : m = 11
  · subst february
    by_cases last : dayOfYear = 365
    · simp [daysInMonth, last, leapDay last]
    · have shortest : 28 ≤ if isLeapYear (year + 1) = true then 29 else 28 := by
        split <;> decide
      simp [daysInMonth]
      omega
  · -- Every other month has its length in every year.
    obtain rfl | rfl | rfl | rfl | rfl | rfl | rfl | rfl | rfl | rfl | rfl :
        m = 0 ∨ m = 1 ∨ m = 2 ∨ m = 3 ∨ m = 4 ∨ m = 5 ∨ m = 6 ∨ m = 7 ∨ m = 8 ∨ m = 9 ∨
          m = 10 := by
      omega
    all_goals
      simp [daysInMonth]
      omega

theorem toDays_ofDays (days : Int) : toDays (ofDays days) = days := by
  obtain ⟨year, dayOfYear, inside, start, date⟩ := exists_ofMarch days
  rw [date, toDays_ofMarch inside, start]

theorem isDate_ofDays (days : Int) : isDate (ofDays days) = true := by
  obtain ⟨year, dayOfYear, inside, _, date⟩ := exists_ofMarch days
  rw [date, isDate_ofMarch inside]

end RequestSigning.Civil
