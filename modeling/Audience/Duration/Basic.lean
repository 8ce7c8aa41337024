import Audience.Numeric.Decimal

/-!
# Durations

A duration is a direction and an amount of each calendar unit. The amounts may have fractions, but
are never negative and always finite.

* **`Duration`** and **`Duration.parts`**: the type, and its amounts from years to seconds.
* **`Duration.ofMillis`**: a number of milliseconds, in seconds.
* **`Duration.Fault`**: why a literal is no duration.
-/

namespace Audience

/-- A span of time in calendar units, towards later or earlier. -/
structure Duration where
  positive : Bool
  years : Magnitude
  months : Magnitude
  weeks : Magnitude
  days : Magnitude
  hours : Magnitude
  minutes : Magnitude
  seconds : Magnitude
  deriving DecidableEq

namespace Duration

/-- The duration of no length. -/
def zero : Duration := ⟨true, .zero, .zero, .zero, .zero, .zero, .zero, .zero⟩

instance : Inhabited Duration := ⟨zero⟩

/-- The amounts, from years to seconds. -/
def parts (d : Duration) : List Magnitude :=
  [d.years, d.months, d.weeks, d.days, d.hours, d.minutes, d.seconds]

/-- Whether all amounts are zero. -/
def isZero (d : Duration) : Bool := d.parts.all fun part => part = .zero

/-- The magnitude nearest to the thousandth part of a magnitude. -/
def thousandth (size : Magnitude) : Magnitude :=
  (Magnitude.nearestQuanta? size.quanta 1000).getD .zero

/-- The duration of a number of milliseconds; what is not finite has no length. -/
def ofMillis (millis : Binary64) : Duration :=
  { zero with
    positive := Binary64.zero.atMost millis
    seconds := match millis with
      | .finite _ size => thousandth size
      | _ => .zero }

/-- Why a literal is no duration. -/
inductive Fault
  | malformed
  | notText
  deriving DecidableEq

/-- The wording of a fault. -/
def Fault.message : Fault → String
  | .malformed => "invalid \"PT\" ISO 8601 duration given"
  | .notText => "\"PT\" ISO 8601 duration expects a string"

end Duration

end Audience
