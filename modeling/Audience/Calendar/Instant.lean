import Audience.Calendar.Date

/-!
# Instants

* **`Instant`**: a second of the calendar range, counted from 1970-01-01T00:00:00Z, and the
  nanoseconds within it. The last second of a minute may take in a leap second, its nanoseconds then
  running to twice a thousand million.
* **`Instant.millis`**, **`Instant.ofMillis?`**: instants by epoch milliseconds; `ofMillis?` refuses
  what lies outside the calendar range.
-/

namespace Audience

/-- The first second of the calendar range. -/
def firstSecond : Int := -8334601228800

/-- The last second of the calendar range. -/
def lastSecond : Int := 8210266876799

example : firstSecond = 86400 * (Date.dayNumber ⟨Date.firstYear, 1, 1⟩) := by decide
example : lastSecond = 86400 * (Date.dayNumber ⟨Date.lastYear, 12, 31⟩ + 1) - 1 := by decide

/-- An instant of the calendar range. -/
structure Instant where
  second : Int
  nano : Nat
  in_range : firstSecond ≤ second ∧ second ≤ lastSecond
  nano_lt : nano < 2000000000
  leap : 1000000000 ≤ nano → second % 60 = 59
  deriving DecidableEq

namespace Instant

/-- The epoch, 1970-01-01T00:00:00Z. -/
def epoch : Instant := ⟨0, 0, by decide, by decide, by decide⟩

instance : Inhabited Instant := ⟨epoch⟩

/-- The instant of a second and nanoseconds, if there is one. -/
def ofSecond? (second : Int) (nano : Nat) : Option Instant :=
  if h : (firstSecond ≤ second ∧ second ≤ lastSecond) ∧ nano < 2000000000 ∧
      (1000000000 ≤ nano → second % 60 = 59) then
    some ⟨second, nano, h.1, h.2.1, h.2.2⟩
  else
    none

/-- Epoch milliseconds, rounded down. -/
def millis (instant : Instant) : Int := 1000 * instant.second + (instant.nano / 1000000 : Nat)

/-- The instant of epoch milliseconds, if it is in the calendar range. -/
def ofMillis? (millis : Int) : Option Instant :=
  ofSecond? (millis / 1000) ((millis % 1000).toNat * 1000000)

end Instant

/-- The epoch milliseconds of the calendar range. -/
def InCalendar (millis : Int) : Prop :=
  1000 * firstSecond ≤ millis ∧ millis ≤ 1000 * lastSecond + 999

instance (millis : Int) : Decidable (InCalendar millis) := inferInstanceAs (Decidable (_ ∧ _))

end Audience
