import RequestSigning.Key.Cache
import RequestSigning.Proofs.Decimal.Digits
import RequestSigning.Proofs.Http.Target
import RequestSigning.Proofs.Time.Civil
import RequestSigning.SigningTerms

/-!
# The day of a signature

A compact date is written from a date of the calendar and can be read in one way only, whatever the
width of its year: `Names.unique`.  So instants share a day exactly where they share the date, and
the slot of a key, the key, the scope and the time of a request have the day in common:
`one_day_one_date`.
-/

namespace RequestSigning

namespace Civil

/-- The sign of a year that has one. -/
def yearSign (year : Int) : List Char :=
  if 0 ≤ year ∧ year ≤ 9999 then [] else if year < 0 then ['-'] else ['+']

theorem toList_yearText (year : Int) :
    (yearText year).toList = yearSign year ++ (Decimal.padded 4 year.natAbs).toList := by
  unfold yearText yearSign
  by_cases plain : 0 ≤ year ∧ year ≤ 9999
  · rw [if_pos plain, if_pos plain, List.nil_append, show year.toNat = year.natAbs by omega]
  · rw [if_neg plain, if_neg plain, String.toList_append]
    split <;> rfl

theorem not_isDigit_of_mem_yearSign {year : Int} {c : Char} (member : c ∈ yearSign year) :
    c.isDigit = false := by
  unfold yearSign at member
  split at member
  · cases member
  · split at member <;> rw [List.mem_singleton.mp member] <;> rfl

theorem minus_mem_yearSign {year : Int} : '-' ∈ yearSign year ↔ year < 0 := by
  unfold yearSign
  split
  · rename_i plain
    exact iff_of_false List.not_mem_nil (by omega)
  · split
    · rename_i negative
      exact iff_of_true List.mem_cons_self negative
    · rename_i positive
      exact iff_of_false (by decide) positive

theorem yearText_injective {year other : Int} (same : yearText year = yearText other) :
    year = other := by
  have signs : ∀ y, (yearText y).toList.filter (!·.isDigit) = yearSign y := by
    intro y
    have sign : (yearSign y).filter (!·.isDigit) = yearSign y :=
      List.filter_eq_self.mpr fun c member => by rw [not_isDigit_of_mem_yearSign member]; rfl
    have digits : (Decimal.padded 4 y.natAbs).toList.filter (!·.isDigit) = [] :=
      List.filter_eq_nil_iff.mpr fun c member => by simp [Decimal.isDigit_of_mem_padded member]
    rw [toList_yearText, List.filter_append, sign, digits, List.append_nil]
  have signs : yearSign year = yearSign other := by rw [← signs, same, signs]
  have digits : Decimal.padded 4 year.natAbs = Decimal.padded 4 other.natAbs := by
    have lists := congrArg String.toList same
    rw [toList_yearText, toList_yearText, signs] at lists
    exact String.toList_injective (List.append_cancel_left lists)
  have size := Decimal.padded_injective digits
  have negative : year < 0 ↔ other < 0 := by
    rw [← minus_mem_yearSign, signs, minus_mem_yearSign]
  omega

/-- A date as in `20130524`. -/
def Date.compact (date : Date) : String :=
  yearText date.year ++ Instant.twoDigits date.month ++ Instant.twoDigits date.day

theorem compact_injective {date other : Date} (month : date.month < 100) (day : date.day < 100)
    (otherMonth : other.month < 100) (otherDay : other.day < 100)
    (same : date.compact = other.compact) : date = other := by
  have width : ∀ n < 100, (Instant.twoDigits n).toList.length = 2 := fun n fits =>
    Decimal.length_padded (by decide) fits
  have lists := congrArg String.toList same
  simp only [Date.compact, String.toList_append] at lists
  obtain ⟨lists, days⟩ := List.append_inj' lists (by rw [width _ day, width _ otherDay])
  obtain ⟨years, months⟩ := List.append_inj' lists (by rw [width _ month, width _ otherMonth])
  have years := yearText_injective (String.toList_injective years)
  have months := Decimal.padded_injective (String.toList_injective months)
  have days := Decimal.padded_injective (String.toList_injective days)
  cases date
  cases other
  simp only at years months days
  rw [years, months, days]

/-- The text is that of a date of the calendar, and the date is that of the day. -/
def Names (text : String) (day : Int) : Prop :=
  ∃ date : Date, isDate date = true ∧ date.compact = text ∧ toDays date = day

theorem twoDigits_of_isDate {date : Date} (valid : isDate date = true) :
    date.month < 100 ∧ date.day < 100 := by
  simp only [isDate, Bool.and_eq_true, decide_eq_true_eq] at valid
  obtain ⟨⟨⟨_, month⟩, _⟩, day⟩ := valid
  have longest : daysInMonth date.year date.month ≤ 31 := by
    unfold daysInMonth
    repeat' split
    all_goals decide
  omega

/-- A text is no date of two days. -/
theorem Names.unique {text : String} {day other : Int} (names : Names text day)
    (also : Names text other) : day = other := by
  obtain ⟨date, valid, written, rfl⟩ := names
  obtain ⟨same, alsoValid, again, rfl⟩ := also
  obtain ⟨month, dayOfMonth⟩ := twoDigits_of_isDate valid
  obtain ⟨alsoMonth, alsoDay⟩ := twoDigits_of_isDate alsoValid
  rw [compact_injective month dayOfMonth alsoMonth alsoDay (written.trans again.symm)]

end Civil

namespace Instant

theorem names_compactDate (t : Instant) : Civil.Names t.compactDate t.days :=
  ⟨t.date, Civil.isDate_ofDays t.days, rfl, Civil.toDays_ofDays t.days⟩

theorem compactDate_eq_iff {t u : Instant} : t.compactDate = u.compactDate ↔ t.days = u.days := by
  constructor
  · intro same
    exact t.names_compactDate.unique (same ▸ u.names_compactDate)
  · intro same
    unfold compactDate date
    rw [same]

/-- A compact date is made of digits, perhaps behind a sign. -/
theorem mem_compactDate {t : Instant} {c : Char} (member : c ∈ t.compactDate.toList) :
    c.isDigit = true ∨ c = '-' ∨ c = '+' := by
  unfold compactDate twoDigits at member
  rw [String.toList_append, String.toList_append, Civil.toList_yearText] at member
  simp only [List.mem_append] at member
  obtain ((sign | year) | month) | day := member
  · unfold Civil.yearSign at sign
    split at sign
    · cases sign
    · split at sign <;> simp [List.mem_singleton.mp sign]
  · exact .inl (Decimal.isDigit_of_mem_padded year)
  · exact .inl (Decimal.isDigit_of_mem_padded month)
  · exact .inl (Decimal.isDigit_of_mem_padded day)

theorem not_mem_compactDate {t : Instant} {b : UInt8} (low : b.toNat < 128)
    (foreign : (Char.ofNat b.toNat).isDigit = false ∧ b ≠ 0x2D ∧ b ≠ 0x2B) :
    b ∉ Utf8.encode t.compactDate := by
  refine Http.Target.not_mem_encode low fun c member same => ?_
  obtain ⟨digit, minus, plus⟩ := foreign
  rw [← same, Char.ofNat_toNat] at digit
  obtain isDigit | rfl | rfl := mem_compactDate member
  · exact Bool.false_ne_true (digit.symm.trans isDigit)
  · exact minus (UInt8.toNat_inj.mp same.symm)
  · exact plus (UInt8.toNat_inj.mp same.symm)

theorem clock_lt (t : Instant) : t.clock.1 < 100 ∧ t.clock.2.1 < 100 ∧ t.clock.2.2 < 100 := by
  have range := t.inRange
  have nonneg := Int.emod_nonneg t.seconds (by decide : secondsPerDay ≠ 0)
  have short := Int.emod_lt_of_pos t.seconds (by decide : 0 < secondsPerDay)
  unfold clock secondOfDay
  unfold nanosPerSecond secondsPerDay at *
  dsimp only
  omega

/-- The time of day as six digits. -/
def clockDigits (t : Instant) : String :=
  twoDigits t.clock.1 ++ twoDigits t.clock.2.1 ++ twoDigits t.clock.2.2

theorem length_clockDigits (t : Instant) : t.clockDigits.toList.length = 6 := by
  obtain ⟨hour, minute, second⟩ := t.clock_lt
  simp only [clockDigits, twoDigits, String.toList_append, List.length_append,
    Decimal.length_padded (by decide : 0 < 2) hour, Decimal.length_padded (by decide : 0 < 2) minute,
    Decimal.length_padded (by decide : 0 < 2) second]

theorem all_isDigit_clockDigits (t : Instant) : t.clockDigits.toList.all Char.isDigit = true := by
  rw [List.all_eq_true]
  intro c member
  simp only [clockDigits, twoDigits, String.toList_append, List.mem_append] at member
  obtain (hour | minute) | second := member
  · exact Decimal.isDigit_of_mem_padded hour
  · exact Decimal.isDigit_of_mem_padded minute
  · exact Decimal.isDigit_of_mem_padded second

theorem compact_eq (t : Instant) : t.compact = t.compactDate ++ "T" ++ t.clockDigits ++ "Z" := by
  simp only [compact, clockDigits, String.append_assoc]

theorem cut_compact (t : Instant) :
    (Bytes.cut 0x54 (Utf8.encode t.compact)).1 = Utf8.encode t.compactDate := by
  have mark : Utf8.encode "T" = [0x54] := rfl
  rw [compact_eq, String.append_assoc, String.append_assoc, Utf8.encode_append, Utf8.encode_append,
    mark, List.singleton_append, Bytes.cut_append (not_mem_compactDate (by decide) (by decide))]

end Instant

namespace SigningTerms

theorem cut_scope (terms : SigningTerms) :
    (Bytes.cut 0x2F (Utf8.encode terms.scope)).1 = Utf8.encode terms.time.compactDate := by
  have slash : Utf8.encode "/" = [0x2F] := rfl
  simp only [scope, String.append_assoc]
  rw [Utf8.encode_append, Utf8.encode_append, slash, List.singleton_append,
    Bytes.cut_append (Instant.not_mem_compactDate (by decide) (by decide))]

theorem signingKey_eq_foldl (terms : SigningTerms) (secret : String) :
    signingKey secret terms.time terms.region terms.service =
      [terms.time.compactDate, terms.region, terms.service, "aws4_request"].foldl narrow
        (Utf8.encode ("AWS4" ++ secret)) := by
  rw [signingKey, ← List.foldl_append, List.cons_append, List.cons_append, List.cons_append,
    List.nil_append]

/-- Instants share a day exactly where they share the date, and the time is written behind the date.
Of every signature the slot of the key has one day, and the date that the key is narrowed to, that
the scope begins with and that the time begins with is the date of that day and of no other. -/
theorem one_day_one_date :
    (∀ t u : Instant, t.days = u.days ↔ t.compactDate = u.compactDate) ∧
    (∀ t : Instant, ∃ clock : String, clock.toList.length = 6 ∧
      clock.toList.all Char.isDigit = true ∧ t.compact = t.compactDate ++ "T" ++ clock ++ "Z") ∧
    ∀ (terms : SigningTerms) (secret : String), ∃ date : String,
      (∀ day, Civil.Names date day ↔
        day = (Slot.of secret terms.time terms.region terms.service).day) ∧
      signingKey secret terms.time terms.region terms.service =
        [date, terms.region, terms.service, "aws4_request"].foldl narrow
          (Utf8.encode ("AWS4" ++ secret)) ∧
      (Bytes.cut 0x2F (Utf8.encode terms.scope)).1 = Utf8.encode date ∧
      (Bytes.cut 0x54 (Utf8.encode terms.time.compact)).1 = Utf8.encode date := by
  refine ⟨fun t u => Instant.compactDate_eq_iff.symm, fun t => ?_, fun terms secret => ?_⟩
  · exact ⟨t.clockDigits, t.length_clockDigits, t.all_isDigit_clockDigits, t.compact_eq⟩
  · refine ⟨terms.time.compactDate, fun day => ⟨fun names => ?_, ?_⟩,
      terms.signingKey_eq_foldl secret, terms.cut_scope, terms.time.cut_compact⟩
    · exact names.unique terms.time.names_compactDate
    · rintro rfl
      exact terms.time.names_compactDate

end SigningTerms

end RequestSigning
