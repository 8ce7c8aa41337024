import Mathlib.Algebra.Order.Ring.Int
import Audience.Proofs.Calendar.Months
import Audience.Proofs.Duration.Words
import Audience.Proofs.Numeric.Whole

/-!
# The moves of a duration

A duration moves an instant seven times, by months and then by milliseconds, and leaves out the moves
that would lead out of the calendar range. Each move that is made goes in the direction of the duration
or nowhere, since no amount has a sign. Months keep the time of day.

* **`Duration.monthsOn`**: the instant some months on. **`Duration.monthsOn_mono`**: of two instants at
  the same time of day the later one leads at least as far.
* **`Duration.Move`**, **`Duration.Move.make`**: a move, and what it makes of an instant.
* **`Duration.route`**, **`Duration.moves_eq_route`**: the moves of a duration from an instant.
* **`Duration.Ahead`**: which instants lie in the direction of a duration.
  **`Duration.ahead_makeAll`**: moves in that direction lead there.
* **`Duration.direction_of_sign`**: a duration moves every instant in its direction or not at all, and
  one of no length moves none.
-/

namespace Audience.Duration

/-! ### Some months on -/

section

variable {start later fewer more : Int} {time : Int}

theorem isValid_dateOf (start : Int) : (dateOf start).IsValid := Date.isValid_ofDayNumber _

theorem dayNumber_dateOf (start : Int) : (dateOf start).dayNumber = start / dayMillis :=
  Date.dayNumber_ofDayNumber _

/-- The instant at the same time of day some months on, be it in the calendar range or not. -/
def monthsOn (start months : Int) : Int :=
  ((dateOf start).addMonths months).dayNumber * dayMillis + start % dayMillis

theorem div_monthsOn (start months : Int) :
    monthsOn start months / dayMillis = ((dateOf start).addMonths months).dayNumber := by
  unfold monthsOn dayMillis
  omega

theorem mod_monthsOn (start months : Int) : monthsOn start months % dayMillis = start % dayMillis := by
  unfold monthsOn dayMillis
  omega

theorem dateOf_monthsOn (start months : Int) :
    dateOf (monthsOn start months) = (dateOf start).addMonths months := by
  rw [dateOf, div_monthsOn]
  exact Date.ofDayNumber_dayNumber (Date.isValid_addMonths (isValid_dateOf start) months)

theorem monthsOn_zero (start : Int) : monthsOn start 0 = start := by
  rw [monthsOn, Date.addMonths_zero (isValid_dateOf start), dayNumber_dateOf]
  exact Int.ediv_mul_add_emod start dayMillis

/-- The days that instants lead to stand in the order of the days they start from. -/
theorem monthsOn_div_mono (hdays : start / dayMillis ≤ later / dayMillis) (hmonths : fewer ≤ more) :
    monthsOn start fewer / dayMillis ≤ monthsOn later more / dayMillis := by
  rw [div_monthsOn, div_monthsOn]
  refine Date.addMonths_mono (isValid_dateOf start) (isValid_dateOf later) ?_ hmonths
  rw [dayNumber_dateOf, dayNumber_dateOf]
  exact hdays

/-- Instants at different times of day may fall on one day and change places there. -/
theorem monthsOn_mono (h : start ≤ later) (htime : start % dayMillis = later % dayMillis)
    (hmonths : fewer ≤ more) : monthsOn start fewer ≤ monthsOn later more := by
  have hdays : start / dayMillis ≤ later / dayMillis := Int.ediv_le_ediv (by decide) h
  have hreached := monthsOn_div_mono hdays hmonths
  have hstart := mod_monthsOn start fewer
  have hlater := mod_monthsOn later more
  unfold dayMillis at *
  omega

/-- The calendar range in milliseconds. -/
theorem inCalendar_iff {millis : Int} :
    InCalendar millis ↔ -8334601228800000 ≤ millis ∧ millis ≤ 8210266876799999 := by
  unfold InCalendar firstSecond lastSecond
  omega

theorem inRange_iff_inCalendar {date : Date} (hvalid : date.IsValid) (hstart : 0 ≤ time)
    (hend : time < dayMillis) : date.InRange ↔ InCalendar (date.dayNumber * dayMillis + time) := by
  have hfirst : Date.dayNumber ⟨Date.firstYear, 1, 1⟩ = -96465292 := by decide
  have hlast : Date.dayNumber ⟨Date.lastYear, 12, 31⟩ = 95026236 := by decide
  rw [Date.inRange_iff hvalid, hfirst, hlast, inCalendar_iff]
  unfold dayMillis at *
  omega

/-- A move by months is made unless it leads out of the calendar range. -/
theorem moveMonths_eq (start months : Int) : moveMonths start months =
    if InCalendar (monthsOn start months) then monthsOn start months else start := by
  have hrange : ((dateOf start).addMonths months).InRange ↔ InCalendar (monthsOn start months) :=
    inRange_iff_inCalendar (Date.isValid_addMonths (isValid_dateOf start) months)
      (Int.emod_nonneg _ (by decide)) (Int.emod_lt_of_pos _ (by decide))
  unfold moveMonths
  dsimp only
  by_cases h : InCalendar (monthsOn start months)
  · rw [if_pos h, if_pos (hrange.2 h)]
    rfl
  · rw [if_neg h, if_neg (fun hdate => h (hrange.1 hdate))]

end

/-! ### Moves -/

/-- A move of an instant. -/
inductive Move
  | months (count : Int)
  | millis (amount : Int)

namespace Move

/-- How many months or milliseconds a move goes on. -/
def amount : Move → Int
  | months count => count
  | millis amount => amount

/-- Where a move leads. -/
def target (start : Int) : Move → Int
  | months count => monthsOn start count
  | millis amount => start + amount

/-- What a move makes of an instant: it is made unless it leads out of the calendar range. -/
def make (start : Int) (move : Move) : Int :=
  if InCalendar (move.target start) then move.target start else start

theorem make_months (start count : Int) : make start (months count) = moveMonths start count :=
  (moveMonths_eq start count).symm

theorem make_millis (start amount : Int) : make start (millis amount) = moveMillis start amount := by
  rw [make, moveMillis, target]

end Move

/-- The moves by years and months. -/
def monthMoves (d : Duration) : List Move :=
  [.months (d.directed (Binary64.clampWord (whole (Binary64.ofMagnitude d.years) * 12))),
    .months (d.directed (whole d.carriedMonths))]

/-- The moves by days, hours, minutes, seconds and milliseconds, from a month of some length. -/
def clockMoves (d : Duration) (length : Nat) : List Move :=
  [.millis (d.directedMillis (whole (d.carriedDays length)) dayMillis),
    .millis (d.directedMillis (whole (d.carriedHours length)) 3600000),
    .millis (d.directedMillis (whole (d.carriedMinutes length)) 60000),
    .millis (d.directedMillis (whole (d.carriedSeconds length)) 1000),
    .millis (d.directed (whole (leftover (d.carriedSeconds length) 1000)))]

/-- The moves of a duration from an instant. The fraction of a month depends on where months lead. -/
def route (d : Duration) (start : Int) : List Move :=
  d.monthMoves ++ d.clockMoves (monthLengthAt (d.monthMoves.foldl Move.make start))

variable {d : Duration} {start a b c : Int}

theorem moves_eq_route (d : Duration) (start : Int) :
    d.moves start = (d.route start).foldl Move.make start := by
  have hmonths : d.monthMoves.foldl Move.make start =
      moveMonths (moveMonths start
        (d.directed (Binary64.clampWord (whole (Binary64.ofMagnitude d.years) * 12))))
        (d.directed (whole d.carriedMonths)) := by
    -- step by step, lest the scales are computed
    rw [monthMoves, List.foldl_cons, List.foldl_cons, List.foldl_nil, Move.make_months,
      Move.make_months]
  rw [route, List.foldl_append, hmonths, clockMoves, List.foldl_cons, List.foldl_cons,
    List.foldl_cons, List.foldl_cons, List.foldl_cons, List.foldl_nil, Move.make_millis,
    Move.make_millis, Move.make_millis, Move.make_millis, Move.make_millis]
  rfl

/-! ### The direction of a duration -/

/-- The second instant is no nearer than the first in the direction of a duration. -/
def Ahead (d : Duration) (a b : Int) : Prop := if d.positive then a ≤ b else b ≤ a

instance (d : Duration) (a b : Int) : Decidable (d.Ahead a b) :=
  inferInstanceAs (Decidable (if d.positive then a ≤ b else b ≤ a))

theorem ahead_iff_le (h : d.positive = true) : d.Ahead a b ↔ a ≤ b := by
  rw [Ahead, if_pos h]

theorem ahead_iff_ge (h : d.positive = false) : d.Ahead a b ↔ b ≤ a := by
  rw [Ahead, if_neg (by rw [h]; exact Bool.false_ne_true)]

theorem ahead_refl (d : Duration) (a : Int) : d.Ahead a a := by
  unfold Ahead
  split <;> exact Int.le_refl a

theorem Ahead.trans (hab : d.Ahead a b) (hbc : d.Ahead b c) : d.Ahead a c := by
  cases hpositive : d.positive with
  | true =>
    rw [ahead_iff_le hpositive] at *
    exact Int.le_trans hab hbc
  | false =>
    rw [ahead_iff_ge hpositive] at *
    exact Int.le_trans hbc hab

theorem ahead_directed {units more : Int} (h : units ≤ more) :
    d.Ahead (d.directed units) (d.directed more) := by
  unfold Ahead directed
  split <;> omega

theorem ahead_zero_directed {units : Int} (h : 0 ≤ units) : d.Ahead 0 (d.directed units) := by
  have := ahead_directed (d := d) h
  rwa [directed_zero] at this

/-- More milliseconds lead further from an instant no nearer. -/
theorem ahead_add {amount more : Int} (h : d.Ahead a b) (hmore : d.Ahead amount more) :
    d.Ahead (a + amount) (b + more) := by
  cases hpositive : d.positive with
  | true =>
    rw [ahead_iff_le hpositive] at *
    exact Int.add_le_add h hmore
  | false =>
    rw [ahead_iff_ge hpositive] at *
    exact Int.add_le_add h hmore

/-- More months lead further from an instant no nearer, at the same time of day. -/
theorem ahead_monthsOn {count more : Int} (h : d.Ahead a b) (htime : a % dayMillis = b % dayMillis)
    (hmore : d.Ahead count more) : d.Ahead (monthsOn a count) (monthsOn b more) := by
  cases hpositive : d.positive with
  | true =>
    rw [ahead_iff_le hpositive] at *
    exact monthsOn_mono h htime hmore
  | false =>
    rw [ahead_iff_ge hpositive] at *
    exact monthsOn_mono h htime.symm hmore

/-- A move in the direction of a duration. -/
theorem ahead_make {move : Move} (h : d.Ahead 0 move.amount) : d.Ahead start (move.make start) := by
  unfold Move.make
  split
  · cases move with
    | months count =>
      have hmonths := ahead_monthsOn (ahead_refl d start) rfl h
      rwa [monthsOn_zero] at hmonths
    | millis amount =>
      have hmillis := ahead_add (ahead_refl d start) h
      rwa [Int.add_zero] at hmillis
  · exact ahead_refl d start

/-- Moves in the direction of a duration. -/
theorem ahead_makeAll {moves : List Move} (h : ∀ move ∈ moves, d.Ahead 0 move.amount) :
    d.Ahead start (moves.foldl Move.make start) := by
  induction moves generalizing start with
  | nil => exact ahead_refl d start
  | cons move rest ih =>
    have hmove : d.Ahead start (move.make start) := ahead_make (h move List.mem_cons_self)
    exact hmove.trans (ih fun other hother => h other (List.mem_cons_of_mem _ hother))

theorem ahead_zero_directedMillis {units size : Int} (h : 0 ≤ units) (hsize : 0 ≤ size) :
    d.Ahead 0 (d.directedMillis units size) := by
  rw [directedMillis_eq]
  exact ahead_zero_directed (Int.mul_nonneg h hsize)

theorem ahead_monthMoves (d : Duration) : ∀ move ∈ d.monthMoves, d.Ahead 0 move.amount := by
  have hyears := whole_nonneg (Binary64.unsigned_ofMagnitude d.years)
  have hclamped := Binary64.clampWord_nonneg (Int.mul_nonneg hyears (by decide : (0 : Int) ≤ 12))
  have hmonths := whole_nonneg d.unsigned_carriedMonths
  simp only [monthMoves, List.forall_mem_cons, Move.amount]
  refine ⟨ahead_zero_directed hclamped, ahead_zero_directed hmonths, ?_⟩
  exact fun _ h => absurd h List.not_mem_nil

/-- No amount has a sign, whatever is carried from one unit to the next. -/
theorem ahead_clockMoves (d : Duration) (length : Nat) :
    ∀ move ∈ d.clockMoves length, d.Ahead 0 move.amount := by
  have hdays := whole_nonneg (d.unsigned_carriedDays length)
  have hhours := whole_nonneg (d.unsigned_carriedHours length)
  have hminutes := whole_nonneg (d.unsigned_carriedMinutes length)
  have hseconds := whole_nonneg (d.unsigned_carriedSeconds length)
  have hmillis := whole_nonneg (d.unsigned_carriedMillis length)
  simp only [clockMoves, List.forall_mem_cons, Move.amount]
  refine ⟨ahead_zero_directedMillis hdays (by decide), ahead_zero_directedMillis hhours (by decide),
    ahead_zero_directedMillis hminutes (by decide), ahead_zero_directedMillis hseconds (by decide),
    ahead_zero_directed hmillis, ?_⟩
  exact fun _ h => absurd h List.not_mem_nil

theorem ahead_route (d : Duration) (start : Int) : ∀ move ∈ d.route start, d.Ahead 0 move.amount := by
  intro move hmove
  obtain hmove | hmove := List.mem_append.1 hmove
  · exact d.ahead_monthMoves move hmove
  · exact d.ahead_clockMoves _ move hmove

/-- Outside the calendar range no move is made. -/
theorem ahead_apply (d : Duration) (start : Int) : d.Ahead start (d.apply start) := by
  unfold apply
  split
  · rw [moves_eq_route]
    exact ahead_makeAll (d.ahead_route start)
  · exact ahead_refl d start

/-! ### Durations of no length -/

/-- A natural number leaves nothing over. -/
theorem leftover_isNat {amount : Binary64} {n scale : Nat} (h : amount.IsNat n)
    (hscale : scale ≤ 2 ^ 64) : leftover amount (.ofNat scale) = .zero := by
  rw [leftover, h.sub_trunc]
  exact Binary64.zero_mul (Binary64.unsigned_ofNat scale) (Binary64.isFinite_ofNat hscale)

/-- Without weeks, days, hours and minutes nothing is carried to the seconds. -/
theorem span_eq_of_seconds (hweeks : d.weeks = .zero) (hdays : d.days = .zero)
    (hhours : d.hours = .zero) (hminutes : d.minutes = .zero) :
    d.span = whole (Binary64.ofMagnitude d.seconds) * 1000 +
      whole (leftover (Binary64.ofMagnitude d.seconds) 1000) := by
  have hzero : Binary64.ofMagnitude .zero = Binary64.zero := rfl
  have hfromWeeks : Binary64.zero * 7 = Binary64.zero :=
    Binary64.zero_mul (Binary64.unsigned_ofNat 7) (Binary64.isFinite_ofNat (by decide))
  have hzeroNat : Binary64.zero.IsNat 0 := ⟨.zero, rfl, (Nat.zero_mul unit).symm⟩
  have hfromDays : leftover Binary64.zero 24 = Binary64.zero := leftover_isNat hzeroNat (by decide)
  have hfromHours : leftover Binary64.zero 60 = Binary64.zero := leftover_isNat hzeroNat (by decide)
  have htotalDays : d.totalDays = Binary64.zero := by
    rw [totalDays, hdays, hweeks, hzero, hfromWeeks, Binary64.zero_add_zero, Binary64.zero_add_zero]
  have htotalHours : d.totalHours = Binary64.zero := by
    rw [totalHours, hhours, hzero, htotalDays, hfromDays, Binary64.zero_add_zero]
  have htotalMinutes : d.totalMinutes = Binary64.zero := by
    rw [totalMinutes, hminutes, hzero, htotalHours, hfromHours, Binary64.zero_add_zero]
  have htotalSeconds : d.totalSeconds = Binary64.ofMagnitude d.seconds := by
    rw [totalSeconds, htotalMinutes, hfromHours, Binary64.ofMagnitude_add_zero]
  rw [span, shiftParts, htotalDays, htotalHours, htotalMinutes, htotalSeconds, whole_zero,
    List.sum_cons, List.sum_cons, List.sum_cons, List.sum_cons, List.sum_cons, List.sum_nil,
    Int.zero_mul, Int.zero_mul, Int.zero_mul, Int.zero_add, Int.zero_add, Int.zero_add, Int.add_zero]

theorem span_eq_zero (h : d.isZero = true) : d.span = 0 := by
  simp only [isZero, parts, List.all_cons, List.all_nil, Bool.and_true, Bool.and_eq_true,
    decide_eq_true_eq] at h
  obtain ⟨_, _, hweeks, hdays, hhours, hminutes, hseconds⟩ := h
  have hzero : Binary64.ofMagnitude .zero = Binary64.zero := rfl
  have hzeroNat : Binary64.zero.IsNat 0 := ⟨.zero, rfl, (Nat.zero_mul unit).symm⟩
  have hfromSeconds : leftover Binary64.zero 1000 = Binary64.zero :=
    leftover_isNat hzeroNat (by decide)
  rw [span_eq_of_seconds hweeks hdays hhours hminutes, hseconds, hzero, hfromSeconds, whole_zero]
  rfl

theorem apply_eq_self (h : d.isZero = true) (start : Int) : d.apply start = start := by
  have hspan := span_eq_zero h
  simp only [isZero, parts, List.all_cons, Bool.and_eq_true, decide_eq_true_eq] at h
  by_cases hstart : InCalendar start
  · have hstay : start + d.directed d.span = start := by rw [hspan, directed_zero, Int.add_zero]
    have hmove := apply_eq h.1 h.2.1 hstart (by rwa [hstay])
    rwa [hstay] at hmove
  · exact if_neg hstart

/-- A duration moves an instant in its direction or not at all, whatever its amounts and the instant,
and a duration of no length moves none. -/
theorem direction_of_sign (d : Duration) (start : Int) :
    (d.positive = true → start ≤ d.apply start) ∧ (d.positive = false → d.apply start ≤ start) ∧
      (d.isZero = true → d.apply start = start) := by
  have hahead := d.ahead_apply start
  refine ⟨?_, ?_, ?_⟩
  · intro hpositive
    exact (ahead_iff_le hpositive).1 hahead
  · intro hnegative
    exact (ahead_iff_ge hnegative).1 hahead
  · intro hzero
    exact apply_eq_self hzero start

theorem enormous_weeks_move_back : ∃ back still,
    ofText? "-P1.5Y0,25M99999999999999999999WT0.1S" = some back ∧ back.positive = false ∧
      back.apply 1500000000000 ≤ 1500000000000 ∧
    ofText? "-P0YT0.0S" = some still ∧ still.isZero = true ∧
      still.apply 1500000000000 = 1500000000000 := by
  have hback : (ofText? "-P1.5Y0,25M99999999999999999999WT0.1S").map (·.positive) = some false := by
    decide +kernel
  have hstill : (ofText? "-P0YT0.0S").map (·.isZero) = some true := by decide +kernel
  obtain ⟨back, hbackText, hnegative⟩ := Option.map_eq_some_iff.1 hback
  obtain ⟨still, hstillText, hzero⟩ := Option.map_eq_some_iff.1 hstill
  exact ⟨back, still, hbackText, hnegative, (direction_of_sign back _).2.1 hnegative,
    hstillText, hzero, (direction_of_sign still _).2.2 hzero⟩

end Audience.Duration
