import Audience.Duration.Basic
import Audience.Json.Basic
import Audience.Text.DecimalDigit

/-!
# Durations as text

The ISO 8601 form: a sign, `P`, and amounts marked `Y`, `M`, `W`, `D`, then `T` and amounts marked
`H`, `M`, `S`. Every part may be missing, but the parts keep this order, so `M` means months before
the `T` and minutes after it.

* **`Duration.ofText?`**: reads a text. The digits of an amount may be those of any script, with a
  point or comma among or after them; an amount that is not written in ASCII, or too large for
  binary64, counts as zero.
* **`Duration.text`**: writes every part, zero or not.
* **`Duration.ofJson`**, **`Duration.toJson`**: durations as JSON strings.
-/

namespace Audience.Duration

/-- The front of a text that spells an amount, as digits and decimal places, and the rest. -/
def number? (text : List Char) : Option ((List Char × List Char) × List Char) :=
  let (whole, rest) := text.span Text.isDecimalDigit
  if whole.isEmpty then none
  else match rest with
    | c :: more =>
        if c = '.' || c = ',' then
          let (places, rest) := more.span Text.isDecimalDigit
          some ((whole, places), rest)
        else some ((whole, []), rest)
    | [] => some ((whole, []), [])

/-- The magnitude nearest to an amount, or zero where there is none. -/
def amount (whole places : List Char) : Magnitude :=
  if (whole ++ places).all Char.isDigit then
    (Decimal.nearest? ⟨Text.digitsValue 0 (whole ++ places), -(places.length : Int)⟩).getD .zero
  else .zero

/-- An amount with its mark, at the front of a text; zero if none is there. -/
def part (mark : Char) (text : List Char) : Magnitude × List Char :=
  match number? text with
  | some ((whole, places), c :: rest) => if c = mark then (amount whole places, rest) else (.zero, text)
  | _ => (.zero, text)

/-- The sign at the front of a text. -/
def sign (text : List Char) : Bool × List Char :=
  match text with
  | '+' :: rest => (true, rest)
  | '-' :: rest => (false, rest)
  | _ => (true, text)

/-- Reads the amounts below days: nothing, or `T` and what follows it. -/
def clock? (d : Duration) (text : List Char) : Option Duration :=
  match text with
  | [] => some d
  | 'T' :: text =>
      let (hours, text) := part 'H' text
      let (minutes, text) := part 'M' text
      let (seconds, text) := part 'S' text
      if text.isEmpty then some { d with hours, minutes, seconds } else none
  | _ => none

/-- Reads the amounts after the `P`. -/
def body? (positive : Bool) (text : List Char) : Option Duration :=
  let (years, text) := part 'Y' text
  let (months, text) := part 'M' text
  let (weeks, text) := part 'W' text
  let (days, text) := part 'D' text
  clock? { zero with positive, years, months, weeks, days } text

/-- Reads a duration. -/
def ofChars? (text : List Char) : Option Duration :=
  match sign text with
  | (positive, 'P' :: rest) => body? positive rest
  | _ => none

/-- Reads a duration. -/
def ofText? (text : String) : Option Duration := ofChars? text.toList

/-- An amount with its mark. -/
def partText (part : Magnitude) (mark : Char) : List Char := part.shortest.positional ++ [mark]

/-- The characters of a duration. -/
def chars (d : Duration) : List Char :=
  (if d.positive then '+' else '-') :: 'P' ::
    (partText d.years 'Y' ++ partText d.months 'M' ++ partText d.weeks 'W' ++ partText d.days 'D' ++
      'T' :: (partText d.hours 'H' ++ partText d.minutes 'M' ++ partText d.seconds 'S'))

/-- Writes a duration. -/
def text (d : Duration) : String := String.ofList d.chars

/-- Reads a JSON string. -/
def ofJson : Json → Except Fault Duration
  | .string text =>
      match ofText? text with
      | some d => .ok d
      | none => .error .malformed
  | _ => .error .notText

/-- The duration as a JSON string. -/
def toJson (d : Duration) : Json := .string d.text

end Audience.Duration
