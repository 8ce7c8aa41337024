import Audience.Proofs.Duration.Shift

/-!
# Moves in 64-bit arithmetic

A move multiplies the whole part of an amount by the sign of the duration, as a 64-bit integer with a
sign. The opposite of the least such integer is none, but whole parts are never negative: no amount
has a sign, neither what an amount leaves over for the next one, even where amounts have become
infinite or what they leave over is NaN.
The length of a unit in milliseconds is no word's matter: a move too long for the calendar range is not
made, whatever its length.

* **`Word.fit?`**: an integer, if it has at most 64 bits with its sign.
* **`Duration.directedInWords?`**, **`Duration.movesInWords?`**, **`Duration.applyInWords?`**: the
  moves, with every product checked. There is no result where one would overflow.
* **`Duration.movesInWords?_eq`**, **`Duration.applyInWords?_eq`**: there always is one, the instant
  that the duration leads to.
-/

namespace Audience

open Binary64 (leastWord largestWord clampWord)

/-! ### Words -/

namespace Word

variable {n : Int}

/-- An integer, if it has at most 64 bits with its sign. -/
def fit? (n : Int) : Option Int := if leastWord ≤ n ∧ n ≤ largestWord then some n else none

theorem fit?_eq_some (hleast : leastWord ≤ n) (hlargest : n ≤ largestWord) : fit? n = some n :=
  if_pos ⟨hleast, hlargest⟩

theorem clampWord_le (n : Int) : clampWord n ≤ largestWord := by
  unfold clampWord leastWord largestWord
  omega

theorem toWord_le (x : Binary64) : x.toWord ≤ largestWord := by
  cases x with
  | nan => exact Binary64.largestWord_nonneg
  | infinite negative =>
    cases negative <;> decide
  | finite negative size => exact clampWord_le _

end Word

namespace Duration

variable {amount : Binary64} {units : Int}

/-! ### Products by the sign -/

/-- The direction of a duration as a factor. -/
def factor (d : Duration) : Int := if d.positive then 1 else -1

/-- A number of units in the direction of a duration, if the product fits. -/
def directedInWords? (d : Duration) (units : Int) : Option Int := Word.fit? (d.factor * units)

theorem directedInWords?_eq (d : Duration) (hnonneg : 0 ≤ units) (hlargest : units ≤ largestWord) :
    d.directedInWords? units = some (d.directed units) := by
  have hword : largestWord = 2 ^ 63 - 1 := rfl
  have hleast : leastWord = -(2 ^ 63) := rfl
  unfold directedInWords? factor directed
  split
  · rw [Int.one_mul]
    exact Word.fit?_eq_some (by omega) hlargest
  · rw [Int.neg_one_mul]
    exact Word.fit?_eq_some (by omega) (by omega)

theorem directedInWords?_whole (d : Duration) (h : amount.Unsigned) :
    d.directedInWords? (whole amount) = some (d.directed (whole amount)) :=
  directedInWords?_eq d (whole_nonneg h) (Word.toWord_le _)

/-- Twelve times the years saturate. -/
theorem directedInWords?_years (d : Duration) (h : amount.Unsigned) :
    d.directedInWords? (clampWord (whole amount * 12)) =
      some (d.directed (clampWord (whole amount * 12))) := by
  have hwhole := whole_nonneg h
  exact directedInWords?_eq d (Binary64.clampWord_nonneg (by omega)) (Word.clampWord_le _)

/-! ### Amounts -/

section

variable (d : Duration) (length : Nat)

/-- The months of a duration, with what its years leave over. -/
def carriedMonths : Binary64 :=
  Binary64.ofMagnitude d.months + leftover (Binary64.ofMagnitude d.years) 12

/-- The days and weeks of a duration, with what its months leave over of a month of some length. -/
def carriedDays : Binary64 :=
  Binary64.ofMagnitude d.days + Binary64.ofMagnitude d.weeks * 7 +
    leftover d.carriedMonths (.ofNat length)

/-- The hours of a duration, with what its days leave over. -/
def carriedHours : Binary64 := Binary64.ofMagnitude d.hours + leftover (d.carriedDays length) 24

/-- The minutes of a duration, with what its hours leave over. -/
def carriedMinutes : Binary64 := Binary64.ofMagnitude d.minutes + leftover (d.carriedHours length) 60

/-- The seconds of a duration, with what its minutes leave over. -/
def carriedSeconds : Binary64 :=
  Binary64.ofMagnitude d.seconds + leftover (d.carriedMinutes length) 60

theorem unsigned_carriedMonths : d.carriedMonths.Unsigned :=
  (Binary64.unsigned_ofMagnitude _).add (unsigned_leftover (Binary64.unsigned_ofMagnitude _) 12)

theorem unsigned_carriedDays : (d.carriedDays length).Unsigned :=
  ((Binary64.unsigned_ofMagnitude _).add
    ((Binary64.unsigned_ofMagnitude _).mul (Binary64.unsigned_ofNat 7))).add
      (unsigned_leftover d.unsigned_carriedMonths length)

theorem unsigned_carriedHours : (d.carriedHours length).Unsigned :=
  (Binary64.unsigned_ofMagnitude _).add (unsigned_leftover (d.unsigned_carriedDays length) 24)

theorem unsigned_carriedMinutes : (d.carriedMinutes length).Unsigned :=
  (Binary64.unsigned_ofMagnitude _).add (unsigned_leftover (d.unsigned_carriedHours length) 60)

theorem unsigned_carriedSeconds : (d.carriedSeconds length).Unsigned :=
  (Binary64.unsigned_ofMagnitude _).add (unsigned_leftover (d.unsigned_carriedMinutes length) 60)

theorem unsigned_carriedMillis : (leftover (d.carriedSeconds length) 1000).Unsigned :=
  unsigned_leftover (d.unsigned_carriedSeconds length) 1000

end

/-! ### Moves -/

/-- Moves an instant that is in the calendar range, every product being checked. -/
def movesInWords? (d : Duration) (start : Int) : Option Int := do
  let years := whole (Binary64.ofMagnitude d.years)
  let afterYears := moveMonths start (← d.directedInWords? (clampWord (years * 12)))
  let afterMonths := moveMonths afterYears (← d.directedInWords? (whole d.carriedMonths))
  let length := monthLengthAt afterMonths
  let days ← d.directedInWords? (whole (d.carriedDays length))
  let afterDays := moveMillis afterMonths (days * dayMillis)
  let hours ← d.directedInWords? (whole (d.carriedHours length))
  let afterHours := moveMillis afterDays (hours * 3600000)
  let minutes ← d.directedInWords? (whole (d.carriedMinutes length))
  let afterMinutes := moveMillis afterHours (minutes * 60000)
  let seconds ← d.directedInWords? (whole (d.carriedSeconds length))
  let afterSeconds := moveMillis afterMinutes (seconds * 1000)
  let millis ← d.directedInWords? (whole (leftover (d.carriedSeconds length) 1000))
  return moveMillis afterSeconds millis

/-- The instant a duration away, every product being checked. -/
def applyInWords? (d : Duration) (start : Int) : Option Int :=
  if InCalendar start then d.movesInWords? start else some start

/-- No product overflows, whatever the amounts. -/
theorem movesInWords?_eq (d : Duration) (start : Int) : d.movesInWords? start = some (d.moves start) := by
  have hyears := directedInWords?_years d (Binary64.unsigned_ofMagnitude d.years)
  have hmonths := directedInWords?_whole d d.unsigned_carriedMonths
  have hdays := fun length => directedInWords?_whole d (d.unsigned_carriedDays length)
  have hhours := fun length => directedInWords?_whole d (d.unsigned_carriedHours length)
  have hminutes := fun length => directedInWords?_whole d (d.unsigned_carriedMinutes length)
  have hseconds := fun length => directedInWords?_whole d (d.unsigned_carriedSeconds length)
  have hmillis := fun length => directedInWords?_whole d (d.unsigned_carriedMillis length)
  simp only [movesInWords?, hyears, hmonths, hdays, hhours, hminutes, hseconds, hmillis,
    Option.bind_eq_bind, Option.bind_some]
  rfl

theorem applyInWords?_eq (d : Duration) (start : Int) : d.applyInWords? start = some (d.apply start) := by
  unfold applyInWords? apply
  split
  · exact d.movesInWords?_eq start
  · rfl

end Duration

end Audience
