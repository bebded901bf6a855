import Mathlib.Tactic.SplitIfs
import OutboxReplicator.Proofs.Time.CalendarOrder
/-!
# Day counts and dates are inverse

`Date.toDays` undoes `Date.ofDays` (`Date.toDays_ofDays`), and `ofDays` gives a date of
the calendar for every day count from the calendar's first day to its last
(`Date.ofDays_valid`).

Both follow the March-based form of `ofDays` (`Date.ofDays_eq_ofMarch`).  `toDays`
shifts January and February back into the year that starts in March, which is exactly
the year `ofMarch` shifted them out of, and the day of the year rebuilds the day of
era.  A day of a month is at most the month's length because the months of a year
starting in March are cut at multiples of 153 / 5 days: 31, 30, 31, 30, 31, 31, 30, 31,
30, 31 and 31 days, then February, which has a 29th day only in a year of 366 days,
that is when the next year is a leap year.
-/

namespace OutboxReplicator

namespace Date

/-- A day of era lies before the start of the next year of era, in every year of the era
but the last. -/
theorem eraDay_lt_next {doe : Int} (nonneg : 0 ≤ doe) (inEra : doe ≤ 146096)
    (notLast : eraYearNumerator doe / 365 < 399) :
    doe < daysBeforeEraYear (eraYearNumerator doe / 365 + 1) := by
  obtain ⟨yoeLow, -, -, -⟩ := yearOfEra_spec nonneg inEra
  refine Int.not_le.mp fun late => ?_
  have row := (eraYear_table_of_range (eraYearNumerator doe / 365 + 1) (by omega)
    (by omega)).1
  have pastEnd : eraYearNumerator (daysBeforeEraYear (eraYearNumerator doe / 365 + 1)) ≤
      eraYearNumerator doe :=
    eraYearNumerator_mono (by unfold daysBeforeEraYear; omega) late inEra
  omega

/-- The day count of a March-based date: its eras, the days of its era before its year,
and its day of the year. -/
theorem toDays_ofMarch {y mp d : Int} (month : 0 ≤ mp ∧ mp ≤ 11) (day : 1 ≤ d) :
    (ofMarch y mp d).toDays =
      y / 400 * 146097 + daysBeforeEraYear (y % 400) + ((153 * mp + 2) / 5 + d - 1) - 719468 := by
  unfold ofMarch toDays daysBeforeEraYear
  simp only
  split <;> split <;> split <;> omega

/-- `toDays` undoes `ofDays`. -/
theorem toDays_ofDays (z : Int) : (ofDays z).toDays = z := by
  obtain ⟨eraLow, eraHigh⟩ := eraDay_range z
  obtain ⟨yoeLow, yoeHigh, -, -⟩ := yearOfEra_spec eraLow eraHigh
  obtain ⟨doyLow, doyHigh⟩ := marchDayOfYear_range z
  rw [ofDays_eq_ofMarch, toDays_ofMarch (monthIndex_range doyLow doyHigh)
    (dayOfMonth_range _).1]
  -- the March year splits back into its era and its year of era
  have era : marchYear z / 400 = (z + 719468) / 146097 := by
    unfold marchYear
    omega
  have yearOfEra : marchYear z % 400 = eraYearNumerator (eraDay z) / 365 := by
    unfold marchYear
    omega
  rw [era, yearOfEra]
  -- and the day of the year with the days before it is the day of era
  unfold dayOfMonth marchDayOfYear eraDay
  omega

/-- A March-based date of a year of era has a day within its month: the months up to
January are cut by the day of year, and February has 29 days only in a year of 366
days. -/
theorem ofMarch_day_le {era yoe doy : Int} (yoeLow : 0 ≤ yoe) (yoeHigh : yoe ≤ 399)
    (doyLow : 0 ≤ doy) (doyHigh : doy ≤ 365)
    (inYear : yoe < 399 → doy < daysBeforeEraYear (yoe + 1) - daysBeforeEraYear yoe) :
    (ofMarch (yoe + era * 400) (monthIndex doy) (dayOfMonth doy)).day ≤
      daysInMonth (ofMarch (yoe + era * 400) (monthIndex doy) (dayOfMonth doy)).year
        (ofMarch (yoe + era * 400) (monthIndex doy) (dayOfMonth doy)).month := by
  unfold ofMarch daysInMonth isLeapYear dayOfMonth monthIndex
  unfold daysBeforeEraYear at inYear
  simp only [decide_eq_true_eq]
  split_ifs <;> omega

/-- Every day count from the calendar's first day to its last has a date of the
calendar. -/
theorem ofDays_valid {z : Int} (low : toDays ⟨minYear, 1, 1⟩ ≤ z)
    (high : z ≤ toDays ⟨maxYear, 12, 31⟩) : (ofDays z).valid = true := by
  have first : ofDays (toDays ⟨minYear, 1, 1⟩) = ⟨minYear, 1, 1⟩ := by decide
  have last : ofDays (toDays ⟨maxYear, 12, 31⟩) = ⟨maxYear, 12, 31⟩ := by decide
  -- the calendar's ends bound the year, as `ofDays` keeps the order of days
  have yearLow : minYear ≤ (ofDays z).year := by
    rcases Int.lt_or_eq_of_le low with later | same
    · have before := ofDays_before later
      rw [first] at before
      simp only [Before] at before
      omega
    · exact Int.le_of_eq (by rw [← same, first])
  have yearHigh : (ofDays z).year ≤ maxYear := by
    rcases Int.lt_or_eq_of_le high with earlier | same
    · have before := ofDays_before earlier
      rw [last] at before
      simp only [Before] at before
      omega
    · exact Int.le_of_eq (by rw [same, last])
  have month := ofDays_month_range z
  have dayLow := (ofDays_day_range z).1
  have dayHigh : (ofDays z).day ≤ daysInMonth (ofDays z).year (ofDays z).month := by
    obtain ⟨eraLow, eraHigh⟩ := eraDay_range z
    obtain ⟨yoeLow, yoeHigh, -, -⟩ := yearOfEra_spec eraLow eraHigh
    obtain ⟨doyLow, doyHigh⟩ := marchDayOfYear_range z
    have inYear := eraDay_lt_next eraLow eraHigh
    rw [ofDays_eq_ofMarch]
    refine ofMarch_day_le yoeLow yoeHigh doyLow doyHigh fun notLast => ?_
    unfold marchDayOfYear
    omega
  simp only [valid, decide_eq_true_eq]
  exact ⟨yearLow, yearHigh, month.1, month.2, dayLow, dayHigh⟩

end Date

end OutboxReplicator
