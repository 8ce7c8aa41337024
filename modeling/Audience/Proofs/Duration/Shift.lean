import Audience.Duration.Shift
import Audience.Duration.Text
import Audience.Proofs.Calendar.DayNumber
import Audience.Proofs.Calendar.Range
import Audience.Proofs.Numeric.Sign
import Mathlib.Algebra.Order.BigOperators.Group.List
import Mathlib.Algebra.Order.Ring.Int

/-!
# Durations without years and months

Such a duration moves every instant by the same number of milliseconds, wherever the calendar range
is not left: nothing is left over by years and months, whatever the month of the instant is long, and
what the other amounts leave over does not depend on the instant. No amount has a sign, so that the
instants between are in the range if the first and the last are.

* **`Duration.shiftParts`**, **`Duration.span`**: the milliseconds of each amount, and of all.
* **`Duration.apply_eq`**: the instant such a duration away.
* **`Duration.opposite`**: the other direction. **`Duration.ofText?_minus`**: its text.
-/

namespace Audience.Duration

/-! ### Moves in the calendar range -/

section

variable {start amount : Int}

theorem moveMonths_zero (h : InCalendar start) : moveMonths start 0 = start := by
  have hfirst : Date.dayNumber ⟨Date.firstYear, 1, 1⟩ ≤ start / dayMillis := by
    have hday : Date.dayNumber ⟨Date.firstYear, 1, 1⟩ = -96465292 := by decide
    have hlow : 1000 * (-8334601228800) ≤ start := h.1
    unfold dayMillis
    omega
  have hlast : start / dayMillis ≤ Date.dayNumber ⟨Date.lastYear, 12, 31⟩ := by
    have hday : Date.dayNumber ⟨Date.lastYear, 12, 31⟩ = 95026236 := by decide
    have hhigh : start ≤ 1000 * 8210266876799 + 999 := h.2
    unfold dayMillis
    omega
  rw [moveMonths, dateOf, Date.addMonths_zero (Date.isValid_ofDayNumber _)]
  rw [if_pos (Date.inRange_ofDayNumber hfirst hlast), Date.dayNumber_ofDayNumber]
  exact Int.ediv_mul_add_emod start dayMillis

theorem moveMillis_eq (h : InCalendar (start + amount)) : moveMillis start amount = start + amount :=
  if_pos h

end

theorem inCalendar_of_between {a b c : Int} (ha : InCalendar a) (hc : InCalendar c)
    (h : (a ≤ b ∧ b ≤ c) ∨ (c ≤ b ∧ b ≤ a)) : InCalendar b := by
  obtain ⟨halow, hahigh⟩ := ha
  obtain ⟨hclow, hchigh⟩ := hc
  constructor <;> omega

variable {d : Duration} {start : Int}

theorem directed_add (d : Duration) (a b : Int) : d.directed (a + b) = d.directed a + d.directed b := by
  unfold directed
  split <;> omega

theorem directedMillis_eq (d : Duration) (units size : Int) :
    d.directedMillis units size = d.directed (units * size) := by
  unfold directedMillis directed
  split
  · rfl
  · exact Int.neg_mul units size

/-- Moves one after the other, none against the direction, add up if the last of them stays in the
calendar range. -/
theorem foldl_moveMillis {amounts : List Int} (hamounts : ∀ amount ∈ amounts, 0 ≤ amount)
    (hstart : InCalendar start) (hend : InCalendar (start + d.directed amounts.sum)) :
    amounts.foldl (fun millis amount => moveMillis millis (d.directed amount)) start =
      start + d.directed amounts.sum := by
  induction amounts generalizing start with
  | nil =>
    unfold directed
    simp
  | cons amount rest ih =>
    have hamount := hamounts amount List.mem_cons_self
    have hrest : ∀ other ∈ rest, 0 ≤ other :=
      fun other hother => hamounts other (List.mem_cons_of_mem _ hother)
    have hsum : 0 ≤ rest.sum := List.sum_nonneg hrest
    rw [List.sum_cons, directed_add, ← Int.add_assoc] at hend ⊢
    have hnext : InCalendar (start + d.directed amount) := by
      refine inCalendar_of_between hstart hend ?_
      unfold directed
      split <;> omega
    rw [List.foldl_cons, moveMillis_eq hnext]
    exact ih hrest hnext hend

/-! ### The milliseconds of a duration -/

/-- The days and weeks of a duration. -/
def totalDays (d : Duration) : Binary64 :=
  Binary64.ofMagnitude d.days + Binary64.ofMagnitude d.weeks * 7 + Binary64.zero

/-- The hours of a duration, with what its days leave over. -/
def totalHours (d : Duration) : Binary64 :=
  Binary64.ofMagnitude d.hours + leftover d.totalDays 24

/-- The minutes of a duration, with what its hours leave over. -/
def totalMinutes (d : Duration) : Binary64 :=
  Binary64.ofMagnitude d.minutes + leftover d.totalHours 60

/-- The seconds of a duration, with what its minutes leave over. -/
def totalSeconds (d : Duration) : Binary64 :=
  Binary64.ofMagnitude d.seconds + leftover d.totalMinutes 60

/-- The milliseconds of the whole part of each amount below months. -/
def shiftParts (d : Duration) : List Int :=
  [whole d.totalDays * dayMillis, whole d.totalHours * 3600000, whole d.totalMinutes * 60000,
    whole d.totalSeconds * 1000, whole (leftover d.totalSeconds 1000)]

/-- The milliseconds that a duration without years and months is long. -/
def span (d : Duration) : Int := d.shiftParts.sum

theorem unsigned_leftover {amount : Binary64} (h : amount.Unsigned) (scale : Nat) :
    (leftover amount (.ofNat scale)).Unsigned :=
  h.sub_trunc.mul (Binary64.unsigned_ofNat scale)

theorem unsigned_totalDays (d : Duration) : d.totalDays.Unsigned :=
  ((Binary64.unsigned_ofMagnitude _).add
    ((Binary64.unsigned_ofMagnitude _).mul (Binary64.unsigned_ofNat 7))).add rfl

theorem unsigned_totalHours (d : Duration) : d.totalHours.Unsigned :=
  (Binary64.unsigned_ofMagnitude _).add (unsigned_leftover d.unsigned_totalDays 24)

theorem unsigned_totalMinutes (d : Duration) : d.totalMinutes.Unsigned :=
  (Binary64.unsigned_ofMagnitude _).add (unsigned_leftover d.unsigned_totalHours 60)

theorem unsigned_totalSeconds (d : Duration) : d.totalSeconds.Unsigned :=
  (Binary64.unsigned_ofMagnitude _).add (unsigned_leftover d.unsigned_totalMinutes 60)

theorem whole_nonneg {amount : Binary64} (h : amount.Unsigned) : 0 ≤ whole amount :=
  h.trunc.toWord_nonneg

theorem shiftParts_nonneg (d : Duration) : ∀ amount ∈ d.shiftParts, 0 ≤ amount := by
  have hdays := whole_nonneg d.unsigned_totalDays
  have hhours := whole_nonneg d.unsigned_totalHours
  have hminutes := whole_nonneg d.unsigned_totalMinutes
  have hseconds := whole_nonneg d.unsigned_totalSeconds
  have hmillis := whole_nonneg (unsigned_leftover d.unsigned_totalSeconds 1000)
  simp only [shiftParts, List.forall_mem_cons]
  refine ⟨Int.mul_nonneg hdays (by decide), Int.mul_nonneg hhours (by decide),
    Int.mul_nonneg hminutes (by decide), Int.mul_nonneg hseconds (by decide), hmillis, ?_⟩
  exact fun _ h => absurd h List.not_mem_nil

theorem span_nonneg (d : Duration) : 0 ≤ d.span := List.sum_nonneg d.shiftParts_nonneg

/-! ### The instant a duration away -/

/-- Zero years and months leave nothing over. -/
theorem leftover_zero {scale : Nat} (h : scale ≤ 31) :
    leftover .zero (.ofNat scale) = .zero := by
  have hfinite := Binary64.isFinite_ofNat (Nat.le_trans h (by decide))
  rw [leftover, Binary64.trunc_zero, Binary64.zero_sub_zero]
  exact Binary64.zero_mul (Binary64.unsigned_ofNat scale) hfinite

theorem whole_zero : whole .zero = 0 := by
  have hclamp : Binary64.clampWord 0 = 0 := by
    unfold Binary64.clampWord Binary64.leastWord Binary64.largestWord
    omega
  rw [whole, Binary64.trunc_zero, Binary64.zero, Binary64.toWord, if_neg Bool.false_ne_true,
    Magnitude.toNat, Magnitude.zero, Nat.zero_div]
  exact hclamp

theorem monthLengthAt_le (millis : Int) : monthLengthAt millis ≤ 31 := by
  unfold monthLengthAt
  dsimp only
  split
  · omega
  · exact Timestamp.monthLength_le _ _

theorem directed_zero (d : Duration) : d.directed 0 = 0 := by
  unfold directed
  split <;> rfl

/-- The moves by years and months stay where they start, and the others are those by the parts. -/
theorem moves_eq (hyears : d.years = .zero) (hmonths : d.months = .zero) (hstart : InCalendar start) :
    d.moves start =
      d.shiftParts.foldl (fun millis amount => moveMillis millis (d.directed amount)) start := by
  have hzero : Binary64.ofMagnitude .zero = Binary64.zero := rfl
  have hclamp : Binary64.clampWord (0 * 12) = 0 := by
    unfold Binary64.clampWord Binary64.leastWord Binary64.largestWord
    omega
  have hfromYears : leftover Binary64.zero 12 = Binary64.zero := leftover_zero (by decide)
  have hfromMonths : leftover Binary64.zero (.ofNat (monthLengthAt start)) = Binary64.zero :=
    leftover_zero (monthLengthAt_le start)
  unfold moves
  dsimp only
  rw [hyears, hmonths, hzero, hfromYears, Binary64.zero_add_zero, whole_zero, hclamp, directed_zero,
    moveMonths_zero hstart, moveMonths_zero hstart, hfromMonths]
  simp only [directedMillis_eq]
  rfl

/-- A duration without years and months moves every instant by its span, unless it leads out of the
calendar range. -/
theorem apply_eq (hyears : d.years = .zero) (hmonths : d.months = .zero)
    (hstart : InCalendar start) (hend : InCalendar (start + d.directed d.span)) :
    d.apply start = start + d.directed d.span := by
  rw [apply, if_pos hstart, moves_eq hyears hmonths hstart]
  exact foldl_moveMillis d.shiftParts_nonneg hstart hend

/-! ### The other direction -/

/-- The same amounts in the other direction. -/
def opposite (d : Duration) : Duration := { d with positive := !d.positive }

theorem directed_opposite (d : Duration) (units : Int) :
    d.opposite.directed units = -d.directed units := by
  unfold directed opposite
  cases d.positive with
  | true => rfl
  | false => exact (Int.neg_neg units).symm

theorem clock?_opposite (d : Duration) (text : List Char) :
    clock? d.opposite text = (clock? d text).map opposite := by
  unfold clock?
  split
  · rfl
  · dsimp only
    split <;> rfl
  · rfl

theorem body?_false (text : List Char) : body? false text = (body? true text).map opposite := by
  let years := part 'Y' text
  let months := part 'M' years.2
  let weeks := part 'W' months.2
  let days := part 'D' weeks.2
  exact clock?_opposite ⟨true, years.1, months.1, weeks.1, days.1, .zero, .zero, .zero⟩ days.2

theorem positive_of_clock? {d' : Duration} {text : List Char} (h : clock? d text = some d') :
    d'.positive = d.positive := by
  unfold clock? at h
  split at h
  · cases h
    rfl
  · dsimp only at h
    split at h
    · cases h
      rfl
    · cases h
  · cases h

/-- A text without a sign is read as a duration towards later, and with a minus as the opposite. -/
theorem ofText?_minus {text : String} {d : Duration} (h : ofText? ("P" ++ text) = some d) :
    d.positive = true ∧ ofText? ("-P" ++ text) = some d.opposite := by
  have hplus : ("P" ++ text).toList = 'P' :: text.toList := by
    rw [String.toList_append]
    rfl
  have hminus : ("-P" ++ text).toList = '-' :: 'P' :: text.toList := by
    rw [String.toList_append]
    rfl
  rw [ofText?, hplus] at h
  have hbody : body? true text.toList = some d := h
  rw [ofText?, hminus]
  refine ⟨positive_of_clock? hbody, ?_⟩
  show body? false text.toList = some d.opposite
  rw [body?_false, hbody]
  rfl

end Audience.Duration
