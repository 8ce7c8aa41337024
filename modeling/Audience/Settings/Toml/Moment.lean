import Audience.Calendar.Timestamp

/-!
# Moments of TOML documents

A moment is a date, a time of day, or both, and both together may have an offset from UTC.

* **`Moment.ofChars?`**: reads a moment. A moment that stands in a text of its own may also have the
  hour 24 and any offset of at most a day.
* **`Moment.text`**: writes it, with a `T` between date and time and no needless digits of the fraction.
-/

namespace Audience.Toml

/-- A time of day. -/
structure Clock where
  hour : Nat
  minute : Nat
  second : Nat
  nano : Nat
  deriving DecidableEq

/-- An offset from UTC: none at all, or minutes. -/
inductive Offset
  | utc
  | minutes (value : Int)
  deriving DecidableEq

/-- A date, a time of day, or both. -/
structure Moment where
  date : Option Date
  clock : Option Clock
  offset : Option Offset
  deriving DecidableEq

namespace Moment

open Timestamp (number? after? fraction? padded)

/-- Reads a date. -/
def date? (text : List Char) : Option (Date × List Char) := do
  let (year, text) ← number? 4 4 text
  let (month, text) ← number? 2 2 (← after? '-' text)
  let (day, text) ← number? 2 2 (← after? '-' text)
  let date : Date := ⟨year, month, day⟩
  if date.IsValid then some (date, text) else none

/-- Reads a time of day. -/
def clock? (quoted : Bool) (text : List Char) : Option (Clock × List Char) := do
  let (hour, text) ← number? 2 2 text
  let (minute, text) ← number? 2 2 (← after? ':' text)
  let (second, text) ← number? 2 2 (← after? ':' text)
  let (nano, text) ← fraction? text
  guard (hour ≤ (if quoted then 24 else 23) ∧ minute ≤ 59 ∧ second ≤ 60)
  return (⟨hour, minute, second, nano⟩, text)

/-- Reads an offset that takes up the whole text. -/
def offset? (quoted : Bool) (text : List Char) : Option Offset :=
  match text with
  | ['Z'] => some .utc
  | ['z'] => some .utc
  | sign :: rest => do
      guard (sign = '+' || sign = '-')
      let (hours, rest) ← number? 2 2 rest
      let (minutes, rest) ← number? 2 2 (← after? ':' rest)
      guard (rest.isEmpty && (if quoted then decide (60 * hours + minutes ≤ 1440)
        else decide (hours ≤ 23 ∧ minutes ≤ 59)))
      let size : Int := 60 * hours + minutes
      return .minutes (if sign = '-' then -size else size)
  | [] => none

/-- Reads the time of day after a date, and the offset after it. -/
def timed? (quoted : Bool) (date : Date) (text : List Char) : Option Moment := do
  let (clock, text) ← clock? quoted (← Timestamp.afterSeparator? text)
  if text.isEmpty then return ⟨date, clock, none⟩
  else return ⟨date, clock, ← offset? quoted text⟩

/-- Reads a moment; `quoted` tells that it stands in a text of its own. -/
def ofChars? (quoted : Bool) (text : List Char) : Option Moment :=
  if text[2]? = some ':' then do
    let (clock, text) ← clock? quoted text
    guard text.isEmpty
    return ⟨none, clock, none⟩
  else do
    let (date, text) ← date? text
    if text.isEmpty then return ⟨date, none, none⟩ else timed? quoted date text

/-- The text of a date. -/
def dateText (date : Date) : List Char :=
  padded 4 date.year.toNat ++ '-' :: padded 2 date.month ++ '-' :: padded 2 date.day

/-- The text of a fraction of a second. -/
def fractionText (nano : Nat) : List Char :=
  if nano = 0 then []
  else '.' :: ((padded 9 nano).reverse.dropWhile (· = '0')).reverse

/-- The text of a time of day. -/
def clockText (clock : Clock) : List Char :=
  padded 2 clock.hour ++ ':' :: padded 2 clock.minute ++ ':' :: padded 2 clock.second ++
    fractionText clock.nano

/-- The text of an offset. -/
def offsetText : Offset → List Char
  | .utc => ['Z']
  | .minutes value =>
      (if value < 0 then '-' else '+') :: padded 2 (value.natAbs / 60) ++
        ':' :: padded 2 (value.natAbs % 60)

/-- The text of a moment. -/
def text (moment : Moment) : String :=
  let date := moment.date.elim [] dateText
  let clock := moment.clock.elim [] clockText
  let mark := if date.isEmpty || clock.isEmpty then [] else ['T']
  String.ofList (date ++ mark ++ clock ++ moment.offset.elim [] offsetText)

end Moment

end Audience.Toml
