import Audience.Calendar.Instant

/-!
# Dates and day numbers

The date of a day number exists, and has that number. Both are shown year by year, a year being taken
from March to February: a day number is that of a year and a day in the year, and the leap day is the
last one.

* **`Date.inYear`**, **`Date.exists_inYear`**: the date of a day in a year, and the year and the day of
  a day number.
* **`Date.isValid_ofDayNumber`**, **`Date.dayNumber_ofDayNumber`**: the date of a day number.
* **`Date.inRange_ofDayNumber`**: the days of the calendar range.
* **`Date.addMonths_zero`**: no months later is the same date.
-/

namespace Audience.Date

/-! ### Years by centuries and leap years -/

section

variable {era century quad year : Int}

theorem daysBeforeYear_eq (hcentury : 0 ≤ century ∧ century ≤ 3) (hquad : 0 ≤ quad ∧ quad ≤ 24)
    (hyear : 0 ≤ year ∧ year ≤ 3) :
    daysBeforeYear (400 * era + 100 * century + 4 * quad + year) =
      146097 * era + 36524 * century + 1461 * quad + 365 * year := by
  unfold daysBeforeYear
  omega

/-- Later years have more days before them, 365 or more for each year between. -/
theorem daysBeforeYear_mono {first last : Int} (h : first ≤ last) :
    daysBeforeYear first + 365 * (last - first) ≤ daysBeforeYear last := by
  have hcentury : ∀ year : Int, year / 100 = year / 4 / 25 := by omega
  unfold daysBeforeYear
  rw [hcentury, hcentury]
  omega

/-- The last year of four is a leap year, unless it ends a century that is not the last of four. -/
theorem isLeap_next (hquad : 0 ≤ quad ∧ quad ≤ 24)
    (h : quad < 24 ∨ century = 3) : isLeap (400 * era + 100 * century + 4 * quad + 3 + 1) = true := by
  simp only [isLeap, Bool.and_eq_true, Bool.or_eq_true, decide_eq_true_eq]
  omega

end

/-! ### Days of a year from March -/

/-- The date of a day in a year that starts in March. -/
def inYear (year ofYear : Int) : Date :=
  let month := (5 * ofYear + 2) / 153
  let day := ofYear - daysBeforeMonth month + 1
  if month < 10 then ⟨year, (month + 3).toNat, day.toNat⟩
  else ⟨year + 1, (month - 9).toNat, day.toNat⟩

/-- A day number is that of a day in a year, the last of 366 only in a year that ends with a leap
day. -/
theorem exists_inYear (number : Int) : ∃ year ofYear : Int,
    ofDayNumber number = inYear year ofYear ∧
      number + epochOffset = daysBeforeYear year + ofYear ∧ 0 ≤ ofYear ∧ ofYear ≤ 365 ∧
      (ofYear = 365 → isLeap (year + 1) = true) := by
  generalize hdays : number + epochOffset = days
  generalize hera : days / 146097 = era
  generalize hofEra : days % 146097 = ofEra
  generalize hcentury : min 3 (ofEra / 36524) = century
  generalize hofCentury : ofEra - 36524 * century = ofCentury
  generalize hquad : ofCentury / 1461 = quad
  generalize hofQuad : ofCentury - 1461 * quad = ofQuad
  generalize hyear : min 3 (ofQuad / 365) = year
  have hcenturyBounds : 0 ≤ century ∧ century ≤ 3 := by omega
  have hofCenturyBounds : 0 ≤ ofCentury ∧ (ofCentury ≤ 36523 ∨ century = 3 ∧ ofCentury = 36524) := by
    omega
  have hquadBounds : 0 ≤ quad ∧ quad ≤ 24 := by omega
  have hyearBounds : 0 ≤ year ∧ year ≤ 3 := by omega
  refine ⟨400 * era + 100 * century + 4 * quad + year, ofQuad - 365 * year, ?_, ?_, ?_, ?_, ?_⟩
  · subst hyear hofQuad hquad hofCentury hcentury hofEra hera hdays
    rfl
  · rw [daysBeforeYear_eq hcenturyBounds hquadBounds hyearBounds]
    omega
  · omega
  · omega
  · intro hlast
    have hthree : year = 3 := by omega
    rw [hthree]
    exact isLeap_next hquadBounds (by omega)

variable {year ofYear : Int}

theorem dayNumber_inYear (hfirst : 0 ≤ ofYear) (hlast : ofYear ≤ 365) :
    (inYear year ofYear).dayNumber = daysBeforeYear year + ofYear - epochOffset := by
  simp only [inYear]
  generalize hmonth : (5 * ofYear + 2) / 153 = month
  have hmonthBounds : 0 ≤ month ∧ month ≤ 11 := by omega
  have hday : daysBeforeMonth month ≤ ofYear := by
    unfold daysBeforeMonth
    omega
  split
  · have hmarch : ¬ (month + 3).toNat ≤ 2 := by omega
    have hback : (((month + 3).toNat - 3 : Nat) : Int) = month := by omega
    simp only [dayNumber, if_neg hmarch, hback]
    omega
  · have hjanuary : (month - 9).toNat ≤ 2 := by omega
    have hback : (((month - 9).toNat + 9 : Nat) : Int) = month := by omega
    simp only [dayNumber, if_pos hjanuary, hback]
    have hyear : year + 1 - 1 = year := by omega
    rw [hyear]
    omega

/-- The days of a month end before the next month. Only those of February depend on the year. -/
theorem isValid_inYear (hfirst : 0 ≤ ofYear) (hlast : ofYear ≤ 365)
    (hleap : ofYear = 365 → isLeap (year + 1) = true) : (inYear year ofYear).IsValid := by
  simp only [inYear]
  generalize hmonth : (5 * ofYear + 2) / 153 = month
  have hcases : month = 11 ∨ month = 10 ∨ month = 9 ∨ month = 8 ∨ month = 7 ∨ month = 6 ∨
      month = 5 ∨ month = 4 ∨ month = 3 ∨ month = 2 ∨ month = 1 ∨ month = 0 := by omega
  obtain rfl | hcases := hcases
  · have hbefore : daysBeforeMonth 11 = 337 := rfl
    have hlength : monthLength (year + 1) 2 = if isLeap (year + 1) then 29 else 28 := rfl
    show 1 ≤ 2 ∧ 2 ≤ 12 ∧ 1 ≤ Int.toNat _ ∧ Int.toNat _ ≤ monthLength (year + 1) 2
    rw [hlength, hbefore]
    by_cases h : ofYear = 365
    · rw [if_pos (hleap h)]
      omega
    · split <;> omega
  · obtain rfl | rfl | rfl | rfl | rfl | rfl | rfl | rfl | rfl | rfl | rfl := hcases
    all_goals
      simp [IsValid, monthLength, daysBeforeMonth]
      omega

/-! ### The date of a day number -/

theorem isValid_ofDayNumber (number : Int) : (ofDayNumber number).IsValid := by
  obtain ⟨year, ofYear, hdate, _, hfirst, hlast, hleap⟩ := exists_inYear number
  rw [hdate]
  exact isValid_inYear hfirst hlast hleap

theorem dayNumber_ofDayNumber (number : Int) : (ofDayNumber number).dayNumber = number := by
  obtain ⟨year, ofYear, hdate, hnumber, hfirst, hlast, _⟩ := exists_inYear number
  rw [hdate, dayNumber_inYear hfirst hlast]
  omega

/-- The days from January belong to the next year. -/
theorem year_inYear (hfirst : 0 ≤ ofYear) :
    (inYear year ofYear).year = if ofYear < 306 then year else year + 1 := by
  simp only [inYear]
  by_cases h : ofYear < 306
  · rw [if_pos h, if_pos (by omega)]
  · rw [if_neg h, if_neg (by omega)]

/-- The days of the calendar range are those from its first day to its last one. -/
theorem inRange_ofDayNumber {number : Int} (hfirst : dayNumber ⟨firstYear, 1, 1⟩ ≤ number)
    (hlast : number ≤ dayNumber ⟨lastYear, 12, 31⟩) : (ofDayNumber number).InRange := by
  obtain ⟨year, ofYear, hdate, hnumber, hofYear, hofYearLast, _⟩ := exists_inYear number
  have hlow : dayNumber ⟨firstYear, 1, 1⟩ = -96465292 := by decide
  have hhigh : dayNumber ⟨lastYear, 12, 31⟩ = 95026236 := by decide
  have hoffset : epochOffset = 719468 := rfl
  have hbefore : daysBeforeYear (-262144) = -95746130 := by decide
  have hafter : daysBeforeYear 262142 = 95745399 := by decide
  have hyearFirst : -262144 ≤ year := by
    refine Int.not_lt.1 fun h => ?_
    have := daysBeforeYear_mono (show year ≤ -262145 by omega)
    have hnext : daysBeforeYear (-262145) = -95746496 := by decide
    omega
  have hyearLast : year ≤ 262142 := by
    refine Int.not_lt.1 fun h => ?_
    have := daysBeforeYear_mono (show 262143 ≤ year by omega)
    have hnext : daysBeforeYear 262143 = 95745764 := by decide
    omega
  rw [hdate, InRange, year_inYear hofYear]
  show -262143 ≤ _ ∧ _ ≤ 262142
  split
  · have : year ≠ -262144 := by
      rintro rfl
      omega
    omega
  · have : year ≠ 262142 := by
      rintro rfl
      omega
    omega

/-! ### No months later -/

theorem addMonths_zero {date : Date} (h : date.IsValid) : date.addMonths 0 = date := by
  obtain ⟨year, month, day⟩ := date
  obtain ⟨hfirst, hlast, _, hday⟩ := h
  simp only [addMonths, monthNumber] at *
  have hyear : (12 * year + (month : Int) - 1 + 0) / 12 = year := by omega
  have hmonth : ((12 * year + (month : Int) - 1 + 0) % 12).toNat + 1 = month := by omega
  rw [hyear, hmonth, Nat.min_eq_left hday]

end Audience.Date
