import OutboxReplicator.Time.Calendar
/-!
# The calendar keeps the order of days

`Date.ofDays` is strictly increasing: a later day count has a later date, compared by
year, then month, then day (`Date.Before`).  Its months run from 1 to 12 and its days
from 1 to 31.

`ofDays` counts years of an era from 1 March, so that a leap day ends the year.  The
year of era is the day of era less its leap days, divided by 365.  The proof shows that
this year is the one whose days contain the day of era (`yearOfEra_spec`): the division
is checked against each of the 400 years of an era once, and the numerator grows with
the day, so every day between two year starts falls in the earlier year.  After that,
days of one year are increasing month-day pairs, and moving January and February to the
next year keeps the order.
-/

namespace OutboxReplicator

namespace Date

/-- The order of dates: by year, then month, then day. -/
def Before (a b : Date) : Prop :=
  a.year < b.year ∨ a.year = b.year ∧ (a.month < b.month ∨ a.month = b.month ∧ a.day < b.day)

/-! ## Years of an era -/

/-- The day of era less the leap days before it: `ofDays` divides it by 365 to find the
year of era. -/
def eraYearNumerator (doe : Int) : Int := doe - doe / 1460 + doe / 36524 - doe / 146096

/-- The days of an era before its year `y`, years starting on 1 March. -/
def daysBeforeEraYear (y : Int) : Int := 365 * y + y / 4 - y / 100

theorem eraYearNumerator_mono {a b : Int} (nonneg : 0 ≤ a) (le : a ≤ b) (inEra : b ≤ 146096) :
    eraYearNumerator a ≤ eraYearNumerator b := by
  have fourYears : a - a / 1460 ≤ b - b / 1460 := by omega
  have centuries : a / 36524 - a / 146096 ≤ b / 36524 - b / 146096 := by omega
  unfold eraYearNumerator
  omega

/-- Each year of an era starts where the numerator reaches its multiple of 365, and the
day before the next year is still short of the next multiple. -/
theorem eraYear_table : ∀ y : Fin 400,
    eraYearNumerator (daysBeforeEraYear y) = 365 * (y : Int) ∧
      eraYearNumerator (daysBeforeEraYear ((y : Int) + 1) - 1) < 365 * ((y : Int) + 1) := by
  decide +kernel

theorem eraYear_table_of_range (y : Int) (nonneg : 0 ≤ y) (lt : y < 400) :
    eraYearNumerator (daysBeforeEraYear y) = 365 * y ∧
      eraYearNumerator (daysBeforeEraYear (y + 1) - 1) < 365 * (y + 1) := by
  have row := eraYear_table ⟨y.toNat, by omega⟩
  simpa [Int.toNat_of_nonneg nonneg] using row

/-- The year of era that `ofDays` computes is the year whose days hold the day of era:
the day falls at most 365 days after the year's start.  The last year of an era is the
one whose leap day is the era's last day. -/
theorem yearOfEra_spec {doe : Int} (nonneg : 0 ≤ doe) (inEra : doe ≤ 146096) :
    let yoe := eraYearNumerator doe / 365
    0 ≤ yoe ∧ yoe ≤ 399 ∧ 0 ≤ doe - daysBeforeEraYear yoe ∧
      doe - daysBeforeEraYear yoe ≤ 365 := by
  intro yoe
  have low : eraYearNumerator 0 ≤ eraYearNumerator doe :=
    eraYearNumerator_mono (Int.le_refl 0) nonneg inEra
  have high : eraYearNumerator doe ≤ eraYearNumerator 146096 :=
    eraYearNumerator_mono nonneg inEra (Int.le_refl _)
  have zero : eraYearNumerator 0 = 0 := by decide
  have last : eraYearNumerator 146096 = 145999 := by decide
  have yoeLow : 0 ≤ yoe := by omega
  have yoeHigh : yoe ≤ 399 := by omega
  refine ⟨yoeLow, yoeHigh, ?_, ?_⟩
  · -- a day before the start of its year would have a smaller numerator
    refine Int.sub_nonneg_of_le (Int.not_lt.mp fun early => ?_)
    have started : 1 ≤ yoe := by
      unfold daysBeforeEraYear at early
      omega
    have row := (eraYear_table_of_range (yoe - 1) (by omega) (by omega)).2
    rw [Int.sub_add_cancel] at row
    have beforeStart : eraYearNumerator doe ≤ eraYearNumerator (daysBeforeEraYear yoe - 1) :=
      eraYearNumerator_mono nonneg (by omega) (by unfold daysBeforeEraYear; omega)
    omega
  · -- a day past the end of its year would reach the next multiple of 365
    rcases Int.lt_or_le yoe 399 with notLast | lastYear
    · have inYear : doe < daysBeforeEraYear (yoe + 1) := Int.not_le.mp fun late => by
        have row := (eraYear_table_of_range (yoe + 1) (by omega) (by omega)).1
        have pastEnd : eraYearNumerator (daysBeforeEraYear (yoe + 1)) ≤ eraYearNumerator doe :=
          eraYearNumerator_mono (by unfold daysBeforeEraYear; omega) late inEra
        omega
      unfold daysBeforeEraYear at inYear ⊢
      omega
    · have lastYear : yoe = 399 := by omega
      rw [lastYear]
      unfold daysBeforeEraYear
      omega

/-! ## Dates of day counts -/

/-- The day of era of a day count: eras of 146097 days start on 1 March of years
divisible by 400. -/
def eraDay (z : Int) : Int := (z + 719468) - (z + 719468) / 146097 * 146097

/-- The year of a day count, years starting on 1 March. -/
def marchYear (z : Int) : Int := eraYearNumerator (eraDay z) / 365 + (z + 719468) / 146097 * 400

/-- The day of a day count in its year, years starting on 1 March. -/
def marchDayOfYear (z : Int) : Int :=
  eraDay z - daysBeforeEraYear (eraYearNumerator (eraDay z) / 365)

/-- The month of a day of a year starting on 1 March: 0 for March to 11 for February. -/
def monthIndex (doy : Int) : Int := (5 * doy + 2) / 153

/-- The day of the month of a day of a year starting on 1 March. -/
def dayOfMonth (doy : Int) : Int := doy - (153 * monthIndex doy + 2) / 5 + 1

/-- The date of a year starting on 1 March, a month index and a day: January and
February belong to the next year. -/
def ofMarch (y mp d : Int) : Date :=
  let m := if mp < 10 then mp + 3 else mp - 9
  ⟨if m ≤ 2 then y + 1 else y, m.toNat, d.toNat⟩

theorem ofDays_eq_ofMarch (z : Int) :
    ofDays z = ofMarch (marchYear z) (monthIndex (marchDayOfYear z))
      (dayOfMonth (marchDayOfYear z)) := rfl

theorem eraDay_range (z : Int) : 0 ≤ eraDay z ∧ eraDay z ≤ 146096 := by
  unfold eraDay
  omega

theorem marchDayOfYear_range (z : Int) : 0 ≤ marchDayOfYear z ∧ marchDayOfYear z ≤ 365 := by
  obtain ⟨-, -, low, high⟩ := yearOfEra_spec (eraDay_range z).1 (eraDay_range z).2
  exact ⟨low, high⟩

theorem monthIndex_range {doy : Int} (nonneg : 0 ≤ doy) (le : doy ≤ 365) :
    0 ≤ monthIndex doy ∧ monthIndex doy ≤ 11 := by
  unfold monthIndex
  omega

theorem dayOfMonth_range (doy : Int) : 1 ≤ dayOfMonth doy ∧ dayOfMonth doy ≤ 31 := by
  unfold dayOfMonth monthIndex
  omega

/-- Later days of one year have a later month, or a later day of the same month. -/
theorem monthIndex_dayOfMonth_lex {a b : Int} (lt : a < b) :
    monthIndex a < monthIndex b ∨
      monthIndex a = monthIndex b ∧ dayOfMonth a < dayOfMonth b := by
  unfold dayOfMonth monthIndex
  omega

/-- A later day count is in a later year, or later in the same year. -/
theorem march_lex {z₁ z₂ : Int} (lt : z₁ < z₂) :
    marchYear z₁ < marchYear z₂ ∨
      marchYear z₁ = marchYear z₂ ∧ marchDayOfYear z₁ < marchDayOfYear z₂ := by
  obtain ⟨low₁, high₁⟩ := eraDay_range z₁
  obtain ⟨low₂, high₂⟩ := eraDay_range z₂
  obtain ⟨-, yoeHigh₁, -, -⟩ := yearOfEra_spec low₁ high₁
  obtain ⟨yoeLow₂, -, -, -⟩ := yearOfEra_spec low₂ high₂
  have eras : (z₁ + 719468) / 146097 ≤ (z₂ + 719468) / 146097 := by omega
  unfold marchYear marchDayOfYear
  rcases Int.lt_or_eq_of_le eras with laterEra | sameEra
  · -- a later era starts past the 400 years of the earlier one
    left
    omega
  · -- in one era the day of era grows, and with it the year of era
    have days : eraDay z₁ < eraDay z₂ := by
      unfold eraDay
      omega
    have years : eraYearNumerator (eraDay z₁) / 365 ≤ eraYearNumerator (eraDay z₂) / 365 :=
      Int.ediv_le_ediv (by decide) (eraYearNumerator_mono low₁ (Int.le_of_lt days) high₂)
    rcases Int.lt_or_eq_of_le years with laterYear | sameYear
    · left
      omega
    · right
      rw [sameYear, sameEra]
      exact ⟨rfl, by omega⟩

/-- Moving January and February to the next year keeps the order of March-based dates. -/
theorem ofMarch_before {y₁ mp₁ d₁ y₂ mp₂ d₂ : Int} (month₁ : 0 ≤ mp₁ ∧ mp₁ ≤ 11)
    (month₂ : 0 ≤ mp₂ ∧ mp₂ ≤ 11) (day₁ : 1 ≤ d₁) (day₂ : 1 ≤ d₂)
    (lex : y₁ < y₂ ∨ y₁ = y₂ ∧ (mp₁ < mp₂ ∨ mp₁ = mp₂ ∧ d₁ < d₂)) :
    (ofMarch y₁ mp₁ d₁).Before (ofMarch y₂ mp₂ d₂) := by
  unfold ofMarch Before
  simp only
  split <;> split <;> split <;> split <;> omega

/-- A later day count has a later date. -/
theorem ofDays_before {z₁ z₂ : Int} (lt : z₁ < z₂) : (ofDays z₁).Before (ofDays z₂) := by
  rw [ofDays_eq_ofMarch, ofDays_eq_ofMarch]
  obtain ⟨doyLow₁, doyHigh₁⟩ := marchDayOfYear_range z₁
  obtain ⟨doyLow₂, doyHigh₂⟩ := marchDayOfYear_range z₂
  refine ofMarch_before (monthIndex_range doyLow₁ doyHigh₁) (monthIndex_range doyLow₂ doyHigh₂)
    (dayOfMonth_range _).1 (dayOfMonth_range _).1 ?_
  rcases march_lex lt with laterYear | ⟨sameYear, laterDay⟩
  · exact .inl laterYear
  · exact .inr ⟨sameYear, monthIndex_dayOfMonth_lex laterDay⟩

theorem ofDays_month_range (z : Int) : 1 ≤ (ofDays z).month ∧ (ofDays z).month ≤ 12 := by
  rw [ofDays_eq_ofMarch]
  obtain ⟨low, high⟩ := monthIndex_range (marchDayOfYear_range z).1 (marchDayOfYear_range z).2
  unfold ofMarch
  simp only
  split <;> omega

theorem ofDays_day_range (z : Int) : 1 ≤ (ofDays z).day ∧ (ofDays z).day ≤ 31 := by
  rw [ofDays_eq_ofMarch]
  obtain ⟨low, high⟩ := dayOfMonth_range (marchDayOfYear z)
  unfold ofMarch
  simp only
  omega

end Date

end OutboxReplicator
