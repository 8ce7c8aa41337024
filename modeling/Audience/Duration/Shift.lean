import Audience.Duration.Basic
import Audience.Calendar.Instant

/-!
# Moving an instant by a duration

Instants are epoch milliseconds here. Units are taken from years down to milliseconds: the whole part
of an amount moves the instant at once, and the rest is carried into the next smaller unit. A
fraction of a month is worth its part of the month that the whole months lead to. A move that would
leave the calendar range, or starts outside it, is not made.

* **`Duration.moveMonths`**, **`Duration.moveMillis`**: the two kinds of move.
* **`Duration.apply`**: all moves of a duration.
-/

namespace Audience.Duration

/-- Milliseconds in a day. -/
def dayMillis : Int := 86400000

/-- The date of an instant. -/
def dateOf (millis : Int) : Date := Date.ofDayNumber (millis / dayMillis)

/-- The instant at the same time of day some months away, on the last day of a shorter month. -/
def moveMonths (millis months : Int) : Int :=
  let date := (dateOf millis).addMonths months
  if date.InRange then date.dayNumber * dayMillis + millis % dayMillis else millis

/-- The instant some milliseconds away. -/
def moveMillis (millis amount : Int) : Int :=
  if InCalendar (millis + amount) then millis + amount else millis

/-- The length of the month of an instant. The last month of the calendar range has no successor to
end it and counts thirty days. -/
def monthLengthAt (millis : Int) : Nat :=
  let date := dateOf millis
  if date.year = Date.lastYear && date.month = 12 then 30
  else Date.monthLength date.year date.month

/-- The whole part of an amount, in 64 bits. -/
def whole (amount : Binary64) : Int := amount.trunc.toWord

/-- What an amount leaves over, in a unit of which `scale` make one. -/
def leftover (amount scale : Binary64) : Binary64 := (amount - amount.trunc) * scale

/-- A number of units in the direction of a duration. -/
def directed (d : Duration) (units : Int) : Int := if d.positive then units else -units

/-- The milliseconds of some units, in the direction of a duration. -/
def directedMillis (d : Duration) (units size : Int) : Int := d.directed units * size

/-- Moves an instant that is in the calendar range. -/
def moves (d : Duration) (start : Int) : Int :=
  let years := Binary64.ofMagnitude d.years
  let afterYears := moveMonths start (d.directed (Binary64.clampWord (whole years * 12)))
  let months := Binary64.ofMagnitude d.months + leftover years 12
  let afterMonths := moveMonths afterYears (d.directed (whole months))
  let fromMonths := leftover months (.ofNat (monthLengthAt afterMonths))
  let days := Binary64.ofMagnitude d.days + Binary64.ofMagnitude d.weeks * 7 + fromMonths
  let afterDays := moveMillis afterMonths (d.directedMillis (whole days) dayMillis)
  let hours := Binary64.ofMagnitude d.hours + leftover days 24
  let afterHours := moveMillis afterDays (d.directedMillis (whole hours) 3600000)
  let minutes := Binary64.ofMagnitude d.minutes + leftover hours 60
  let afterMinutes := moveMillis afterHours (d.directedMillis (whole minutes) 60000)
  let seconds := Binary64.ofMagnitude d.seconds + leftover minutes 60
  let afterSeconds := moveMillis afterMinutes (d.directedMillis (whole seconds) 1000)
  moveMillis afterSeconds (d.directed (whole (leftover seconds 1000)))

/-- The instant a duration away. -/
def apply (d : Duration) (start : Int) : Int :=
  if InCalendar start then d.moves start else start

end Audience.Duration
