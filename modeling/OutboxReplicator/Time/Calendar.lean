/-!
# The proleptic Gregorian calendar

Dates are counted in days from 1970-01-01, in both directions, over the proleptic
Gregorian calendar with a year zero.  `daysOfDate` and `dateOfDays` convert between a
day count and a year, month and day, using 400-year eras of 146097 days, each era
starting on a 1 March so that the leap day ends the year.

The calendar knows dates from 1 January of year `-262143` to 31 December of year
`262142`; `Date.valid` says whether a year, month and day name such a date.
-/

namespace OutboxReplicator

/-- A calendar date. -/
structure Date where
  /-- The year, with a year zero before year 1. -/
  year : Int
  /-- The month, from 1 to 12. -/
  month : Nat
  /-- The day of the month, from 1. -/
  day : Nat
  deriving DecidableEq, Repr

namespace Date

/-- The first year of the calendar. -/
def minYear : Int := -262143

/-- The last year of the calendar. -/
def maxYear : Int := 262142

/-- Whether a year has a 29 February. -/
def isLeapYear (y : Int) : Bool := y % 4 = 0 ∧ (y % 100 ≠ 0 ∨ y % 400 = 0)

/-- The number of days of a month of a year. -/
def daysInMonth (y : Int) (m : Nat) : Nat :=
  if m = 2 then (if isLeapYear y then 29 else 28)
  else if m = 4 ∨ m = 6 ∨ m = 9 ∨ m = 11 then 30
  else 31

/-- Whether year, month and day name a date of the calendar. -/
def valid (d : Date) : Bool :=
  minYear ≤ d.year ∧ d.year ≤ maxYear ∧ 1 ≤ d.month ∧ d.month ≤ 12 ∧ 1 ≤ d.day ∧
    d.day ≤ daysInMonth d.year d.month

/-- The day count of a date, 1970-01-01 being day 0.  Years are shifted to start in
March, and counted in eras of 400 years. -/
def toDays (d : Date) : Int :=
  let y : Int := if d.month ≤ 2 then d.year - 1 else d.year
  let era := y / 400
  let yoe := y % 400
  let mp : Int := if d.month > 2 then (d.month : Int) - 3 else (d.month : Int) + 9
  let doy := (153 * mp + 2) / 5 + (d.day : Int) - 1
  let doe := yoe * 365 + yoe / 4 - yoe / 100 + doy
  era * 146097 + doe - 719468

/-- The date of a day count, inverse to `toDays`. -/
def ofDays (z : Int) : Date :=
  let z := z + 719468
  let era := z / 146097
  let doe := z - era * 146097
  let yoe := (doe - doe / 1460 + doe / 36524 - doe / 146096) / 365
  let y := yoe + era * 400
  let doy := doe - (365 * yoe + yoe / 4 - yoe / 100)
  let mp := (5 * doy + 2) / 153
  let d := doy - (153 * mp + 2) / 5 + 1
  let m := if mp < 10 then mp + 3 else mp - 9
  ⟨if m ≤ 2 then y + 1 else y, m.toNat, d.toNat⟩

end Date

end OutboxReplicator
