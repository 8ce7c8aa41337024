import Audience.Proofs.Calendar.DayNumber

/-!
# Months of the calendar

Months are numbered from January of the year 0. Each one starts where the one before it ends, so that
dates stand in the order of their months and days, whatever the lengths of the months between them.
Going some months on keeps that order, although the last days of a long month fall together on the
last day of a shorter one.

* **`Date.monthStart`**, **`Date.monthDays`**: the first day of a month and the number of its days.
  **`Date.monthStart_succ`**, **`Date.monthStart_add_le`**: later months start later.
* **`Date.dayNumber_eq`**: the day number of a date, by its month and day.
  **`Date.ofDayNumber_dayNumber`**: a day number has one date.
* **`Date.monthNumber_addMonths`**, **`Date.isValid_addMonths`**: the date some months on.
* **`Date.addMonths_mono`**: of two dates the later one leads at least as far.
* **`Date.inRange_iff`**: the days of the calendar range.
-/

namespace Audience.Date

/-! ### Months -/

/-- The number of the first day of a month. -/
def monthStart (month : Int) : Int := dayNumber ⟨month / 12, (month % 12).toNat + 1, 1⟩

/-- The number of days of a month. -/
def monthDays (month : Int) : Nat := monthLength (month / 12) ((month % 12).toNat + 1)

variable {first last : Int}

/-- The leap day ends a year that starts in March. -/
theorem daysBeforeYear_succ (year : Int) :
    daysBeforeYear year = daysBeforeYear (year - 1) + if isLeap year then 366 else 365 := by
  have hcentury : ∀ year : Int, year / 100 = year / 4 / 25 := by omega
  unfold daysBeforeYear
  by_cases hleap : isLeap year = true
  · rw [if_pos hleap]
    simp only [isLeap, Bool.and_eq_true, Bool.or_eq_true, decide_eq_true_eq] at hleap
    omega
  · rw [if_neg hleap]
    simp only [isLeap, Bool.and_eq_true, Bool.or_eq_true, decide_eq_true_eq] at hleap
    omega

theorem monthDays_pos (month : Int) : 0 < monthDays month := by
  unfold monthDays monthLength
  split
  · split <;> omega
  · split <;> omega

/-- A month starts where the one before it ends. -/
theorem monthStart_succ (month : Int) : monthStart (month + 1) = monthStart month + monthDays month := by
  obtain ⟨year, ofYear, rfl, hofYear⟩ : ∃ (year : Int) (ofYear : Nat),
      month = 12 * year + ofYear ∧ ofYear < 12 :=
    ⟨month / 12, (month % 12).toNat, by omega, by omega⟩
  unfold monthStart monthDays
  by_cases hlast : ofYear = 11
  · subst hlast
    have hyear : (12 * year + (11 : Nat)) / 12 = year := by omega
    have hofYear : ((12 * year + (11 : Nat)) % 12).toNat = 11 := by omega
    have hnextYear : (12 * year + (11 : Nat) + 1) / 12 = year + 1 := by omega
    have hnext : ((12 * year + (11 : Nat) + 1) % 12).toNat = 0 := by omega
    rw [hyear, hofYear, hnextYear, hnext]
    simp [dayNumber, monthLength, daysBeforeMonth]
    omega
  · have hyear : (12 * year + (ofYear : Int)) / 12 = year := by omega
    have hmonth : ((12 * year + (ofYear : Int)) % 12).toNat = ofYear := by omega
    have hnextYear : (12 * year + (ofYear : Int) + 1) / 12 = year := by omega
    have hnext : ((12 * year + (ofYear : Int) + 1) % 12).toNat = ofYear + 1 := by omega
    rw [hyear, hmonth, hnextYear, hnext]
    by_cases hfebruary : ofYear = 1
    · subst hfebruary
      have hyears := daysBeforeYear_succ year
      have hlength : (monthLength year 2 : Int) = if isLeap year then 29 else 28 := by
        rw [monthLength, if_pos rfl]
        split <;> rfl
      simp only [dayNumber, hlength, daysBeforeMonth]
      by_cases hleap : isLeap year = true
      · rw [if_pos hleap] at hyears ⊢
        simp
        omega
      · rw [if_neg hleap] at hyears ⊢
        simp
        omega
    · have hcases : ofYear = 0 ∨ ofYear = 2 ∨ ofYear = 3 ∨ ofYear = 4 ∨ ofYear = 5 ∨ ofYear = 6 ∨
          ofYear = 7 ∨ ofYear = 8 ∨ ofYear = 9 ∨ ofYear = 10 := by omega
      obtain rfl | rfl | rfl | rfl | rfl | rfl | rfl | rfl | rfl | rfl := hcases
      all_goals
        simp [dayNumber, monthLength, daysBeforeMonth]
        omega

/-- Later months start later, after all days of the earlier ones. -/
theorem monthStart_add_le (h : first < last) : monthStart first + monthDays first ≤ monthStart last := by
  obtain ⟨between, rfl⟩ : ∃ between : Nat, last = first + 1 + between :=
    ⟨(last - first - 1).toNat, by omega⟩
  clear h
  induction between with
  | zero =>
    rw [Int.natCast_zero, Int.add_zero]
    exact Int.le_of_eq (monthStart_succ first).symm
  | succ between ih =>
    have hnext := monthStart_succ (first + 1 + between)
    have hmonth : first + 1 + ((between + 1 : Nat) : Int) = first + 1 + between + 1 := by omega
    rw [hmonth]
    omega

/-! ### Dates by their months -/

variable {date other : Date}

theorem dayNumber_eq (h : date.IsValid) :
    date.dayNumber = monthStart date.monthNumber + date.day - 1 := by
  obtain ⟨year, month, day⟩ := date
  obtain ⟨hfirst, hlast, _, _⟩ := h
  simp only at hfirst hlast
  have hyear : (12 * year + (month : Int) - 1) / 12 = year := by omega
  have hmonth : ((12 * year + (month : Int) - 1) % 12).toNat + 1 = month := by omega
  simp only [monthStart, monthNumber, hyear, hmonth, dayNumber]
  omega

theorem monthDays_monthNumber (h : date.IsValid) :
    monthDays date.monthNumber = monthLength date.year date.month := by
  obtain ⟨year, month, day⟩ := date
  obtain ⟨hfirst, hlast, _, _⟩ := h
  simp only at hfirst hlast
  have hyear : (12 * year + (month : Int) - 1) / 12 = year := by omega
  have hmonth : ((12 * year + (month : Int) - 1) % 12).toNat + 1 = month := by omega
  simp only [monthDays, monthNumber, hyear, hmonth]

theorem day_le_monthDays (h : date.IsValid) : date.day ≤ monthDays date.monthNumber := by
  rw [monthDays_monthNumber h]
  exact h.2.2.2

theorem dayNumber_lt_of_monthNumber_lt (hdate : date.IsValid) (hother : other.IsValid)
    (h : date.monthNumber < other.monthNumber) : date.dayNumber < other.dayNumber := by
  have hday := day_le_monthDays hdate
  have hotherDay := hother.2.2.1
  have hmonths := monthStart_add_le h
  rw [dayNumber_eq hdate, dayNumber_eq hother]
  omega

theorem monthNumber_le_of_dayNumber_le (hdate : date.IsValid) (hother : other.IsValid)
    (h : date.dayNumber ≤ other.dayNumber) : date.monthNumber ≤ other.monthNumber := by
  refine Int.not_lt.1 fun hlt => ?_
  have := dayNumber_lt_of_monthNumber_lt hother hdate hlt
  omega

theorem eq_of_monthNumber_eq (hdate : date.IsValid) (hother : other.IsValid)
    (hmonth : date.monthNumber = other.monthNumber) (hday : date.day = other.day) :
    date = other := by
  obtain ⟨year, month, day⟩ := date
  obtain ⟨otherYear, otherMonth, otherDay⟩ := other
  obtain ⟨hfirst, hlast, _, _⟩ := hdate
  obtain ⟨hotherFirst, hotherLast, _, _⟩ := hother
  simp only [monthNumber] at *
  have hyear : year = otherYear := by omega
  subst hyear hday
  have hmonth : month = otherMonth := by omega
  rw [hmonth]

/-- Different dates have different day numbers. -/
theorem ofDayNumber_dayNumber (h : date.IsValid) : ofDayNumber date.dayNumber = date := by
  have hvalid := isValid_ofDayNumber date.dayNumber
  have hnumber := dayNumber_ofDayNumber date.dayNumber
  have hmonth : (ofDayNumber date.dayNumber).monthNumber = date.monthNumber :=
    Int.le_antisymm (monthNumber_le_of_dayNumber_le hvalid h (Int.le_of_eq hnumber))
      (monthNumber_le_of_dayNumber_le h hvalid (Int.le_of_eq hnumber.symm))
  have hdate := dayNumber_eq h
  have hfound := dayNumber_eq hvalid
  rw [hnumber, hmonth] at hfound
  exact eq_of_monthNumber_eq hvalid h hmonth (by omega)

/-! ### Some months on -/

theorem monthNumber_addMonths (date : Date) (months : Int) :
    (date.addMonths months).monthNumber = date.monthNumber + months := by
  simp only [addMonths, monthNumber]
  omega

theorem day_addMonths (date : Date) (months : Int) :
    (date.addMonths months).day = min date.day (monthDays (date.monthNumber + months)) := rfl

theorem isValid_addMonths (h : date.IsValid) (months : Int) : (date.addMonths months).IsValid := by
  have hdays := monthDays_pos (date.monthNumber + months)
  have hday := h.2.2.1
  have hshort : (date.addMonths months).day ≤ monthDays (date.monthNumber + months) :=
    Nat.min_le_right _ _
  refine ⟨?_, ?_, ?_, hshort⟩
  · simp only [addMonths]
    omega
  · simp only [addMonths]
    omega
  · rw [day_addMonths]
    omega

/-- Of two dates the later one leads at least as far, and no less far with more months to go. -/
theorem addMonths_mono (hdate : date.IsValid) (hother : other.IsValid)
    (h : date.dayNumber ≤ other.dayNumber) {fewer more : Int} (hmonths : fewer ≤ more) :
    (date.addMonths fewer).dayNumber ≤ (other.addMonths more).dayNumber := by
  have hreached := isValid_addMonths hdate fewer
  have hotherReached := isValid_addMonths hother more
  have hmonth := monthNumber_le_of_dayNumber_le hdate hother h
  by_cases heq : date.monthNumber + fewer = other.monthNumber + more
  · have hsame : date.monthNumber = other.monthNumber := by omega
    rw [dayNumber_eq hdate, dayNumber_eq hother, hsame] at h
    rw [dayNumber_eq hreached, dayNumber_eq hotherReached, monthNumber_addMonths,
      monthNumber_addMonths, day_addMonths, day_addMonths, heq]
    omega
  · refine Int.le_of_lt (dayNumber_lt_of_monthNumber_lt hreached hotherReached ?_)
    rw [monthNumber_addMonths, monthNumber_addMonths]
    omega

/-! ### The calendar range -/

/-- The days of the calendar range are those from its first to its last. -/
theorem inRange_iff (h : date.IsValid) :
    date.InRange ↔ dayNumber ⟨firstYear, 1, 1⟩ ≤ date.dayNumber ∧
      date.dayNumber ≤ dayNumber ⟨lastYear, 12, 31⟩ := by
  have hfirst : IsValid ⟨firstYear, 1, 1⟩ := by decide
  have hlast : IsValid ⟨lastYear, 12, 31⟩ := by decide
  constructor
  · rintro ⟨hlow, hhigh⟩
    have hmonth := h.1
    have hmonthLast := h.2.1
    constructor
    · by_cases hstart : date.monthNumber = monthNumber ⟨firstYear, 1, 1⟩
      · have hday := h.2.2.1
        rw [dayNumber_eq h, dayNumber_eq hfirst, hstart]
        simp only
        omega
      · refine Int.le_of_lt (dayNumber_lt_of_monthNumber_lt hfirst h ?_)
        simp only [monthNumber] at hstart ⊢
        omega
    · by_cases hend : date.monthNumber = monthNumber ⟨lastYear, 12, 31⟩
      · have hday := day_le_monthDays h
        have hlength : monthDays (monthNumber ⟨lastYear, 12, 31⟩) = 31 := by decide
        rw [hend, hlength] at hday
        rw [dayNumber_eq h, dayNumber_eq hlast, hend]
        simp only
        omega
      · refine Int.le_of_lt (dayNumber_lt_of_monthNumber_lt h hlast ?_)
        simp only [monthNumber] at hend ⊢
        omega
  · rintro ⟨hlow, hhigh⟩
    have := inRange_ofDayNumber hlow hhigh
    rwa [ofDayNumber_dayNumber h] at this

end Audience.Date
