/-!
# Civil dates

The proleptic Gregorian calendar, years being numbered by all integers.

* **`Date`** and **`Date.IsValid`**: a year, month and day, and which of them are dates.
* **`Date.dayNumber`**, **`Date.ofDayNumber`**: dates counted by days from 1970-01-01. Years are
  taken from March to February, so that the leap day ends the year.
* **`Date.addMonths`**: the same day of a later or earlier month, or the last day of that month.
-/

namespace Audience

/-- A year, month and day. -/
structure Date where
  year : Int
  month : Nat
  day : Nat
  deriving DecidableEq, Inhabited

namespace Date

/-- Whether a year has a leap day. -/
def isLeap (year : Int) : Bool := year % 4 = 0 && (year % 100 ≠ 0 || year % 400 = 0)

/-- The number of days in a month. -/
def monthLength (year : Int) (month : Nat) : Nat :=
  if month = 2 then if isLeap year then 29 else 28
  else if month = 4 || month = 6 || month = 9 || month = 11 then 30
  else 31

/-- The month and the day exist. -/
def IsValid (date : Date) : Prop :=
  1 ≤ date.month ∧ date.month ≤ 12 ∧ 1 ≤ date.day ∧ date.day ≤ monthLength date.year date.month

instance (date : Date) : Decidable date.IsValid := inferInstanceAs (Decidable (_ ∧ _))

/-- Days from 0000-03-01 to 1970-01-01. -/
def epochOffset : Int := 719468

/-- Days from 0000-03-01 to the first of March of a year. -/
def daysBeforeYear (year : Int) : Int := 365 * year + year / 4 - year / 100 + year / 400

/-- Days from the first of March to the first day of a month, months being counted from March. -/
def daysBeforeMonth (month : Int) : Int := (153 * month + 2) / 5

/-- Days from 1970-01-01. -/
def dayNumber (date : Date) : Int :=
  let year := if date.month ≤ 2 then date.year - 1 else date.year
  let month := if date.month ≤ 2 then date.month + 9 else date.month - 3
  daysBeforeYear year + daysBeforeMonth month + date.day - 1 - epochOffset

/-- The date a number of days from 1970-01-01. -/
def ofDayNumber (number : Int) : Date :=
  let days := number + epochOffset
  let era := days / 146097
  let ofEra := days % 146097
  let century := min 3 (ofEra / 36524)
  let ofCentury := ofEra - 36524 * century
  let quad := ofCentury / 1461
  let ofQuad := ofCentury - 1461 * quad
  let yearOfQuad := min 3 (ofQuad / 365)
  let ofYear := ofQuad - 365 * yearOfQuad
  let year := 400 * era + 100 * century + 4 * quad + yearOfQuad
  let month := (5 * ofYear + 2) / 153
  let day := ofYear - daysBeforeMonth month + 1
  if month < 10 then ⟨year, (month + 3).toNat, day.toNat⟩
  else ⟨year + 1, (month - 9).toNat, day.toNat⟩

/-- Months from January of the year 0 to the month of a date. -/
def monthNumber (date : Date) : Int := 12 * date.year + date.month - 1

/-- The date a number of months later, its day clamped to the month's last. -/
def addMonths (date : Date) (months : Int) : Date :=
  let number := date.monthNumber + months
  let year := number / 12
  let month := (number % 12).toNat + 1
  ⟨year, month, min date.day (monthLength year month)⟩

/-- The earliest year of the calendar range. -/
def firstYear : Int := -262143

/-- The latest year of the calendar range. -/
def lastYear : Int := 262142

/-- The year is inside the calendar range. -/
def InRange (date : Date) : Prop := firstYear ≤ date.year ∧ date.year ≤ lastYear

instance (date : Date) : Decidable date.InRange := inferInstanceAs (Decidable (_ ∧ _))

end Date

end Audience
