import Audience.Proofs.Duration.Move

/-!
# Durations of whole amounts

Nothing is left over by whole amounts, so that each is moved by as it stands, and only the sum of days
and weeks may have to be rounded. As long as the calendar range is not left no sum is large enough for
that, and the duration leads where the calendar says: some months on, and some milliseconds further.

Two instants may change places on the way, because months clamp different days to one last day and keep
the time of day.

* **`Duration.MonthsApart`**, **`Duration.monthsApart_iff`**: when an instant is some months on from
  another.
* **`Duration.route_eq`**: the moves of a duration of whole amounts.
* **`Duration.StaysInCalendar`**, **`Duration.apply_of_staysInCalendar`**: where it leads in the
  calendar range.
* **`Duration.whole_follows_calendar`**: what that says about one instant and about two.
-/

namespace Audience.Duration

/-! ### Months apart -/

/-- An instant is some months on from another: at the same time of day, and on the same day of the
month, or on the last day if the month is too short. -/
structure MonthsApart (months start stop : Int) : Prop where
  month : (dateOf stop).monthNumber = (dateOf start).monthNumber + months
  day : (dateOf stop).day =
    min (dateOf start).day (Date.monthLength (dateOf stop).year (dateOf stop).month)
  timeOfDay : stop % dayMillis = start % dayMillis

variable {start stop later months : Int}

theorem monthsApart_monthsOn (start months : Int) : MonthsApart months start (monthsOn start months) where
  month := by rw [dateOf_monthsOn, Date.monthNumber_addMonths]
  day := by
    rw [dateOf_monthsOn]
    rfl
  timeOfDay := mod_monthsOn start months

/-- There is one instant some months on. -/
theorem monthsApart_iff : MonthsApart months start stop ↔ stop = monthsOn start months := by
  constructor
  · intro h
    have hon := monthsApart_monthsOn start months
    have hmonth : (dateOf stop).monthNumber = (dateOf (monthsOn start months)).monthNumber := by
      rw [h.month, hon.month]
    have hday : (dateOf stop).day = (dateOf (monthsOn start months)).day := by
      rw [h.day, hon.day, ← Date.monthDays_monthNumber (isValid_dateOf _),
        ← Date.monthDays_monthNumber (isValid_dateOf _), hmonth]
    have hdate := Date.eq_of_monthNumber_eq (isValid_dateOf _) (isValid_dateOf _) hmonth hday
    have hdays : stop / dayMillis = monthsOn start months / dayMillis := by
      rw [← dayNumber_dateOf, ← dayNumber_dateOf, hdate]
    have htime : stop % dayMillis = monthsOn start months % dayMillis := by
      rw [h.timeOfDay, hon.timeOfDay]
    rw [← Int.ediv_mul_add_emod stop dayMillis, hdays, htime]
    exact Int.ediv_mul_add_emod _ _
  · rintro rfl
    exact monthsApart_monthsOn start months

/-! ### Whole amounts -/

/-- All amounts are whole numbers. -/
def IsWhole (d : Duration) : Prop := ∀ part ∈ d.parts, part.IsWhole

instance (d : Duration) : Decidable d.IsWhole :=
  inferInstanceAs (Decidable (∀ part ∈ d.parts, part.IsWhole))

/-- The days of a duration of whole amounts, with those of its weeks, rounded as they are added. -/
def wholeDays (d : Duration) : Nat :=
  Rounding.rounded (d.days.toNat + Rounding.rounded (d.weeks.toNat * 7))

variable {d : Duration} {length : Nat}

theorem isNat_parts (h : d.IsWhole) :
    (Binary64.ofMagnitude d.years).IsNat d.years.toNat ∧
    (Binary64.ofMagnitude d.months).IsNat d.months.toNat ∧
    (Binary64.ofMagnitude d.weeks).IsNat d.weeks.toNat ∧
    (Binary64.ofMagnitude d.days).IsNat d.days.toNat ∧
    (Binary64.ofMagnitude d.hours).IsNat d.hours.toNat ∧
    (Binary64.ofMagnitude d.minutes).IsNat d.minutes.toNat ∧
    (Binary64.ofMagnitude d.seconds).IsNat d.seconds.toNat := by
  simp only [IsWhole, parts, List.forall_mem_cons] at h
  obtain ⟨hyears, hmonths, hweeks, hdays, hhours, hminutes, hseconds, _⟩ := h
  exact ⟨Binary64.isNat_ofMagnitude hyears, Binary64.isNat_ofMagnitude hmonths,
    Binary64.isNat_ofMagnitude hweeks, Binary64.isNat_ofMagnitude hdays,
    Binary64.isNat_ofMagnitude hhours, Binary64.isNat_ofMagnitude hminutes,
    Binary64.isNat_ofMagnitude hseconds⟩

theorem whole_isNat {amount : Binary64} {n : Nat} (h : amount.IsNat n) :
    whole amount = Binary64.clampWord n :=
  h.toWord_trunc

theorem carriedMonths_eq (h : d.IsWhole) : d.carriedMonths = Binary64.ofMagnitude d.months := by
  have hyears : leftover (Binary64.ofMagnitude d.years) 12 = .zero :=
    leftover_isNat (isNat_parts h).1 (by decide)
  rw [carriedMonths, hyears, Binary64.ofMagnitude_add_zero]

theorem carriedDays_eq (h : d.IsWhole) (hlength : length ≤ 31) :
    d.carriedDays length = d.totalDays := by
  obtain ⟨_, hmonthsNat, _⟩ := isNat_parts h
  have hmonths : leftover d.carriedMonths (.ofNat length) = .zero := by
    rw [carriedMonths_eq h]
    exact leftover_isNat hmonthsNat (Nat.le_trans hlength (by decide))
  rw [carriedDays, hmonths, totalDays]

theorem isNat_totalDays (h : d.IsWhole) (hfinite : d.totalDays.isFinite = true) :
    d.totalDays.IsNat d.wholeDays := by
  rw [totalDays] at hfinite ⊢
  have hsum := (Binary64.isFinite_of_add hfinite).1
  have hproduct := (Binary64.isFinite_of_add hsum).2
  have hseven : (7 : Binary64).IsNat 7 := Binary64.isNat_ofNat (by decide)
  obtain ⟨_, _, hweeks, hdays, _⟩ := isNat_parts h
  have htotal := hdays.add (hweeks.mul hseven hproduct) hsum
  rw [htotal.add_zero]
  exact htotal

theorem isFinite_totalDays_iff (h : d.IsWhole) : d.totalDays.isFinite = true ↔
    Rounding.rounded (d.weeks.toNat * 7) * unit < ceiling ∧ d.wholeDays * unit < ceiling := by
  have hseven : (7 : Binary64).IsNat 7 := Binary64.isNat_ofNat (by decide)
  obtain ⟨_, _, hweeks, hdays, _⟩ := isNat_parts h
  constructor
  · intro hfinite
    have hsum := (Binary64.isFinite_of_add hfinite).1
    have hproduct := (Binary64.isFinite_of_add hsum).2
    exact ⟨(hweeks.isFinite_mul_iff hseven).1 hproduct,
      (hdays.isFinite_add_iff (hweeks.mul hseven hproduct)).1 hsum⟩
  · rintro ⟨hproductLt, hsumLt⟩
    have hproduct := hweeks.mul hseven ((hweeks.isFinite_mul_iff hseven).2 hproductLt)
    have hsum := hdays.add hproduct ((hdays.isFinite_add_iff hproduct).2 hsumLt)
    rw [totalDays, hsum.add_zero]
    exact hsum.isFinite

section

variable (h : d.IsWhole) (hfinite : d.totalDays.isFinite = true) (hlength : length ≤ 31)

include h hfinite hlength

theorem carriedHours_eq : d.carriedHours length = Binary64.ofMagnitude d.hours := by
  have hdays : leftover (d.carriedDays length) 24 = .zero := by
    rw [carriedDays_eq h hlength]
    exact leftover_isNat (isNat_totalDays h hfinite) (by decide)
  rw [carriedHours, hdays, Binary64.ofMagnitude_add_zero]

theorem carriedMinutes_eq : d.carriedMinutes length = Binary64.ofMagnitude d.minutes := by
  obtain ⟨_, _, _, _, hhoursNat, _⟩ := isNat_parts h
  have hhours : leftover (d.carriedHours length) 60 = .zero := by
    rw [carriedHours_eq h hfinite hlength]
    exact leftover_isNat hhoursNat (by decide)
  rw [carriedMinutes, hhours, Binary64.ofMagnitude_add_zero]

theorem carriedSeconds_eq : d.carriedSeconds length = Binary64.ofMagnitude d.seconds := by
  obtain ⟨_, _, _, _, _, hminutesNat, _⟩ := isNat_parts h
  have hminutes : leftover (d.carriedMinutes length) 60 = .zero := by
    rw [carriedMinutes_eq h hfinite hlength]
    exact leftover_isNat hminutesNat (by decide)
  rw [carriedSeconds, hminutes, Binary64.ofMagnitude_add_zero]

end

/-- The milliseconds of the days, hours, minutes and seconds of a duration of whole amounts. -/
def clockAmounts (d : Duration) : List Int :=
  [Binary64.clampWord d.wholeDays * dayMillis, Binary64.clampWord d.hours.toNat * 3600000,
    Binary64.clampWord d.minutes.toNat * 60000, Binary64.clampWord d.seconds.toNat * 1000, 0]

theorem monthMoves_eq (h : d.IsWhole) : d.monthMoves =
    [.months (d.directed (Binary64.clampWord (Binary64.clampWord d.years.toNat * 12))),
      .months (d.directed (Binary64.clampWord d.months.toNat))] := by
  obtain ⟨hyears, hmonths, _⟩ := isNat_parts h
  rw [monthMoves, carriedMonths_eq h, whole_isNat hyears, whole_isNat hmonths]

theorem clockMoves_eq (h : d.IsWhole) (hfinite : d.totalDays.isFinite = true)
    (hlength : length ≤ 31) :
    d.clockMoves length = d.clockAmounts.map fun amount => .millis (d.directed amount) := by
  obtain ⟨_, _, _, _, hhours, hminutes, hseconds⟩ := isNat_parts h
  have hnone : leftover (Binary64.ofMagnitude d.seconds) 1000 = .zero :=
    leftover_isNat hseconds (by decide)
  rw [clockMoves, carriedDays_eq h hlength, carriedHours_eq h hfinite hlength,
    carriedMinutes_eq h hfinite hlength, carriedSeconds_eq h hfinite hlength, hnone, whole_zero,
    whole_isNat (isNat_totalDays h hfinite), whole_isNat hhours, whole_isNat hminutes,
    whole_isNat hseconds]
  simp only [clockAmounts, List.map_cons, List.map_nil, directedMillis_eq]

/-- The moves of a duration of whole amounts do not depend on the instant. -/
theorem route_eq (h : d.IsWhole) (hfinite : d.totalDays.isFinite = true) (start : Int) :
    d.route start = d.monthMoves ++ d.clockAmounts.map fun amount => .millis (d.directed amount) := by
  rw [route, clockMoves_eq h hfinite (monthLengthAt_le _)]

/-! ### In the calendar range -/

/-- Where the years of a duration of whole amounts lead. -/
def afterYears (d : Duration) (start : Int) : Int := monthsOn start (d.directed (12 * d.years.toNat))

/-- Where the years and months of a duration of whole amounts lead. -/
def afterMonths (d : Duration) (start : Int) : Int :=
  monthsOn (d.afterYears start) (d.directed d.months.toNat)

/-- The milliseconds of the weeks, days, hours, minutes and seconds of a duration of whole amounts. -/
def clockMillis (d : Duration) : Int :=
  ((((7 * d.weeks.toNat + d.days.toNat) * 24 + d.hours.toNat) * 60 + d.minutes.toNat) * 60 +
    d.seconds.toNat) * 1000

/-- No instant that a duration of whole amounts leads through is out of the calendar range. Those
between the last two lie between them. -/
structure StaysInCalendar (d : Duration) (start : Int) : Prop where
  begins : InCalendar start
  afterYears : InCalendar (d.afterYears start)
  afterMonths : InCalendar (d.afterMonths start)
  ends : InCalendar (d.afterMonths start + d.directed d.clockMillis)

instance (d : Duration) (start : Int) : Decidable (d.StaysInCalendar start) :=
  decidable_of_iff (InCalendar start ∧ InCalendar (d.afterYears start) ∧
      InCalendar (d.afterMonths start) ∧ InCalendar (d.afterMonths start + d.directed d.clockMillis))
    ⟨fun h => ⟨h.1, h.2.1, h.2.2.1, h.2.2.2⟩, fun h => ⟨h.begins, h.afterYears, h.afterMonths, h.ends⟩⟩

theorem inRange_dateOf (h : InCalendar start) : (dateOf start).InRange := by
  rw [inRange_iff_inCalendar (isValid_dateOf start) (Int.emod_nonneg start (by decide))
    (Int.emod_lt_of_pos start (by decide)), dayNumber_dateOf, Int.ediv_mul_add_emod]
  exact h

/-- The calendar range has not that many months. -/
theorem months_lt (hstart : InCalendar start) (hstop : InCalendar (monthsOn start months)) :
    -6291432 < months ∧ months < 6291432 := by
  obtain ⟨hstartLow, hstartHigh⟩ := inRange_dateOf hstart
  obtain ⟨hstopLow, hstopHigh⟩ := inRange_dateOf hstop
  obtain ⟨hstartFirst, hstartLast, _, _⟩ := isValid_dateOf start
  obtain ⟨hstopFirst, hstopLast, _, _⟩ := isValid_dateOf (monthsOn start months)
  have hmonth := (monthsApart_monthsOn start months).month
  have hfirst : Date.firstYear = -262143 := rfl
  have hlast : Date.lastYear = 262142 := rfl
  unfold Date.monthNumber at hmonth
  omega

/-- The calendar range has not that many milliseconds. -/
theorem millis_lt {millis : Int} (hstart : InCalendar start) (hstop : InCalendar (start + millis)) :
    -16544868105600000 < millis ∧ millis < 16544868105600000 := by
  rw [inCalendar_iff] at hstart hstop
  omega

theorem lt_of_directed {n bound : Int} (h : -bound < d.directed n ∧ d.directed n < bound) :
    n < bound := by
  unfold directed at h
  split at h <;> omega

theorem wholeDays_eq (h : d.days.toNat + d.weeks.toNat * 7 ≤ 2 ^ 53) :
    d.wholeDays = d.days.toNat + d.weeks.toNat * 7 := by
  rw [wholeDays, Rounding.rounded_of_le (n := d.weeks.toNat * 7) (by omega), Rounding.rounded_of_le h]

theorem isFinite_totalDays (hwhole : d.IsWhole)
    (h : d.days.toNat + d.weeks.toNat * 7 ≤ 2 ^ 53) : d.totalDays.isFinite = true := by
  refine (isFinite_totalDays_iff hwhole).2 ⟨Binary64.rounded_mul_unit_lt (by omega), ?_⟩
  rw [wholeDays, Rounding.rounded_of_le (n := d.weeks.toNat * 7) (by omega)]
  exact Binary64.rounded_mul_unit_lt h

/-- In the calendar range amounts are far from what a word holds. -/
theorem sum_clockAmounts (h : d.clockMillis < 16544868105600000) :
    d.clockAmounts.sum = d.clockMillis := by
  unfold clockMillis at h
  have hdays : d.days.toNat + d.weeks.toNat * 7 ≤ 2 ^ 53 := by omega
  have hword : ∀ n : Nat, (n : Int) < 2 ^ 62 → Binary64.clampWord n = n :=
    fun n hn => Binary64.clampWord_of_lt (Int.natCast_nonneg n) hn
  simp only [clockAmounts, wholeDays_eq hdays, List.sum_cons, List.sum_nil, clockMillis, dayMillis]
  rw [hword d.hours.toNat (by omega), hword d.minutes.toNat (by omega),
    hword d.seconds.toNat (by omega), hword (d.days.toNat + d.weeks.toNat * 7) (by omega)]
  omega

/-- The years and months of a duration of whole amounts lead where they should. -/
theorem makeAll_monthMoves (hwhole : d.IsWhole) (h : d.StaysInCalendar start) :
    d.monthMoves.foldl Move.make start = d.afterMonths start := by
  have hyears : (12 * d.years.toNat : Int) < 6291432 :=
    lt_of_directed (months_lt h.begins h.afterYears)
  have hmonths : (d.months.toNat : Int) < 6291432 :=
    lt_of_directed (months_lt h.afterYears h.afterMonths)
  have hyearWord := Binary64.clampWord_of_lt (n := d.years.toNat) (by omega) (by omega)
  have hyearsWord := Binary64.clampWord_of_lt (n := d.years.toNat * 12) (by omega) (by omega)
  have hmonthsWord := Binary64.clampWord_of_lt (n := d.months.toNat) (by omega) (by omega)
  have htwelve : (d.years.toNat * 12 : Int) = 12 * d.years.toNat := Int.mul_comm _ _
  rw [monthMoves_eq hwhole, hyearWord, hyearsWord, hmonthsWord, htwelve, List.foldl_cons,
    List.foldl_cons, List.foldl_nil, Move.make, Move.make]
  have hfirst : Move.target start (.months (d.directed (12 * d.years.toNat))) =
      d.afterYears start := rfl
  rw [hfirst, if_pos h.afterYears]
  exact if_pos h.afterMonths

theorem foldl_millis (amounts : List Int) (start : Int) :
    (amounts.map fun amount => Move.millis (d.directed amount)).foldl Move.make start =
      amounts.foldl (fun millis amount => moveMillis millis (d.directed amount)) start := by
  simp only [List.foldl_map, Move.make_millis]

theorem clockAmounts_nonneg (d : Duration) : ∀ amount ∈ d.clockAmounts, 0 ≤ amount := by
  have hword : ∀ n : Nat, 0 ≤ Binary64.clampWord n :=
    fun n => Binary64.clampWord_nonneg (Int.natCast_nonneg n)
  simp only [clockAmounts, List.forall_mem_cons]
  refine ⟨Int.mul_nonneg (hword _) (by decide), Int.mul_nonneg (hword _) (by decide),
    Int.mul_nonneg (hword _) (by decide), Int.mul_nonneg (hword _) (by decide), by decide, ?_⟩
  exact fun _ h => absurd h List.not_mem_nil

/-- In the calendar range a duration of whole amounts leads where the calendar says. -/
theorem apply_of_staysInCalendar (hwhole : d.IsWhole) (h : d.StaysInCalendar start) :
    d.apply start = d.afterMonths start + d.directed d.clockMillis := by
  have hmillis := lt_of_directed (millis_lt h.afterMonths h.ends)
  have hsum := sum_clockAmounts hmillis
  have hfinite : d.totalDays.isFinite = true := by
    unfold clockMillis at hmillis
    exact isFinite_totalDays hwhole (by omega)
  have hend : InCalendar (d.afterMonths start + d.directed d.clockAmounts.sum) := by
    rw [hsum]
    exact h.ends
  rw [apply, if_pos h.begins, moves_eq_route, route_eq hwhole hfinite, List.foldl_append,
    makeAll_monthMoves hwhole h, foldl_millis,
    foldl_moveMillis d.clockAmounts_nonneg h.afterMonths hend, hsum]

/-! ### Two instants -/

theorem afterMonths_mod (d : Duration) (start : Int) :
    d.afterMonths start % dayMillis = start % dayMillis := by
  rw [afterMonths, mod_monthsOn, afterYears, mod_monthsOn]

/-- The later of two instants leads to no earlier day. -/
theorem afterMonths_div_mono (d : Duration) (h : start ≤ later) :
    d.afterMonths start / dayMillis ≤ d.afterMonths later / dayMillis := by
  have hdays : start / dayMillis ≤ later / dayMillis := Int.ediv_le_ediv (by decide) h
  exact monthsOn_div_mono (monthsOn_div_mono hdays (Int.le_refl _)) (Int.le_refl _)

/-- In the calendar range a duration of whole amounts moves an instant by its years, then by its
months, each time keeping the time of day and clamping the day to the last of the month, and then by
its weeks, days, hours, minutes and seconds in milliseconds. Of two instants the later one leads no less
far, unless the months take both to one day and it has the earlier time of day. -/
theorem whole_follows_calendar (d : Duration) (hwhole : d.IsWhole) :
    (∀ start, d.StaysInCalendar start →
      MonthsApart (d.directed (12 * d.years.toNat)) start (d.afterYears start) ∧
      MonthsApart (d.directed d.months.toNat) (d.afterYears start) (d.afterMonths start) ∧
      d.apply start = d.afterMonths start + d.directed (((((7 * d.weeks.toNat + d.days.toNat) * 24 +
        d.hours.toNat) * 60 + d.minutes.toNat) * 60 + d.seconds.toNat) * 1000)) ∧
    (∀ start later, d.StaysInCalendar start → d.StaysInCalendar later → start ≤ later →
      (d.apply start ≤ d.apply later ↔
        ¬ (d.afterMonths start / dayMillis = d.afterMonths later / dayMillis ∧
          later % dayMillis < start % dayMillis))) := by
  constructor
  · intro start h
    exact ⟨monthsApart_monthsOn _ _, monthsApart_monthsOn _ _, apply_of_staysInCalendar hwhole h⟩
  · intro start later h hlater hle
    have hdays := d.afterMonths_div_mono hle
    have hstartTime := d.afterMonths_mod start
    have hlaterTime := d.afterMonths_mod later
    rw [apply_of_staysInCalendar hwhole h, apply_of_staysInCalendar hwhole hlater]
    unfold dayMillis at *
    omega

theorem follows_calendar_backwards : ∃ d, ofText? "-P1Y1M2W3DT4H5M6S" = some d ∧ d.IsWhole ∧
    d.StaysInCalendar 1711843199999 ∧ d.afterMonths 1711843199999 = 1677628799999 ∧
    d.apply 1711843199999 = 1677628799999 - ((((7 * 2 + 3) * 24 + 4) * 60 + 5) * 60 + 6) * 1000 := by
  have hread : (ofText? "-P1Y1M2W3DT4H5M6S").map (fun d => decide (d.IsWhole ∧
      d.StaysInCalendar 1711843199999 ∧ d.afterMonths 1711843199999 = 1677628799999 ∧
      d.clockMillis = ((((7 * 2 + 3) * 24 + 4) * 60 + 5) * 60 + 6) * 1000 ∧ d.positive = false)) =
      some true := by decide +kernel
  obtain ⟨d, htext, h⟩ := Option.map_eq_some_iff.1 hread
  obtain ⟨hwhole, hstays, hmonths, hmillis, hnegative⟩ := of_decide_eq_true h
  refine ⟨d, htext, hwhole, hstays, hmonths, ?_⟩
  have happly := ((whole_follows_calendar d hwhole).1 _ hstays).2.2
  unfold clockMillis at hmillis
  rw [happly, hmonths, hmillis, directed, if_neg (by rw [hnegative]; exact Bool.false_ne_true)]
  rfl

/-- From `2023-01-30T23:00Z` and `2023-01-31T01:00Z` a month leads to the same day. -/
theorem months_change_order : ∃ d, ofText? "P1M" = some d ∧ d.IsWhole ∧
    d.StaysInCalendar 1675119600000 ∧ d.StaysInCalendar 1675126800000 ∧
    d.apply 1675126800000 < d.apply 1675119600000 := by
  have hread : (ofText? "P1M").map (fun d => decide (d.IsWhole ∧ d.StaysInCalendar 1675119600000 ∧
      d.StaysInCalendar 1675126800000 ∧ d.apply 1675126800000 < d.apply 1675119600000)) =
      some true := by decide +kernel
  obtain ⟨d, htext, h⟩ := Option.map_eq_some_iff.1 hread
  exact ⟨d, htext, of_decide_eq_true h⟩

end Audience.Duration
