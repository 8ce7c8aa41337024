import Audience.Calendar.Instant
import Audience.Text.Blank
import Audience.Text.DecimalDigit

/-!
# Timestamps

The written forms of instants.

* **`Timestamp.strict?`**: RFC 3339. The date and time of day have their full widths; a `t`, `T` or
  space stands between them; the offset is `Z` or hours and minutes.
* **`Timestamp.lenient?`**: the same fields with fewer digits, blanks around the marks, a signed year
  of any width and `UTC` for the offset.
* **`Timestamp.day?`**: a year, month and day alone, which mean midnight.
* **`Timestamp.text`**: the RFC 3339 form in UTC, with as many groups of three fraction digits as
  needed and a sign on years that do not have four digits.
-/

namespace Audience.Timestamp

/-! ### Scanning

A scan gives the value read at the front of a text and the rest of the text. -/

/-- At least `least` and at most `most` ASCII digits. -/
def number? (least most : Nat) (text : List Char) : Option (Nat × List Char) :=
  let digits := (text.take most).takeWhile Char.isDigit
  if digits.length < least then none
  else some (Text.digitsValue 0 digits, text.drop digits.length)

/-- The text after a given character. -/
def after? (mark : Char) (text : List Char) : Option (List Char) :=
  match text with
  | c :: rest => if c = mark then some rest else none
  | [] => none

/-- The text after the mark between date and time. -/
def afterSeparator? (text : List Char) : Option (List Char) :=
  after? 't' text <|> after? 'T' text <|> after? ' ' text

/-- Nanoseconds given by a fraction after its point; digits past the ninth are dropped. -/
def fraction? (text : List Char) : Option (Nat × List Char) :=
  match text with
  | '.' :: rest => do
      let (value, left) ← number? 1 9 rest
      let places := rest.length - left.length
      return (value * 10 ^ (9 - places), left.dropWhile Char.isDigit)
  | _ => some (0, text)

/-- The sign of an offset. -/
def sign? (text : List Char) : Option (Int × List Char) :=
  match text with
  | '+' :: rest => some (1, rest)
  | '-' :: rest => some (-1, rest)
  | '−' :: rest => some (-1, rest)
  | _ => none

/-- An offset from UTC in minutes; `between` passes over what separates hours and minutes. -/
def offset? (between : List Char → Option (List Char)) (text : List Char) : Option (Int × List Char) :=
  match text with
  | 'Z' :: rest => some (0, rest)
  | 'z' :: rest => some (0, rest)
  | _ => do
      let (sign, text) ← sign? text
      let (hours, text) ← number? 2 2 text
      let (minutes, text) ← number? 2 2 (← between text)
      if minutes < 60 && hours < 24 then some (sign * (60 * hours + minutes), text) else none

/-- The fields of a date and a time of day, as written. -/
structure Fields where
  date : Date
  hour : Nat
  minute : Nat
  second : Nat
  nano : Nat

/-- The instant of local fields at an offset in minutes. The second 60 is a leap second. -/
def Fields.instant? (fields : Fields) (offset : Int) : Option Instant :=
  if fields.date.IsValid ∧ fields.date.InRange ∧ fields.hour < 24 ∧ fields.minute < 60 ∧
      fields.second ≤ 60 then
    let ofDay := 3600 * fields.hour + 60 * fields.minute + min fields.second 59
    let nano := if fields.second = 60 then fields.nano + 1000000000 else fields.nano
    Instant.ofSecond? (86400 * fields.date.dayNumber + ofDay - 60 * offset) nano
  else
    none

/-- Reads an RFC 3339 timestamp. -/
def strict? (text : List Char) : Option Instant := do
  let (year, text) ← number? 4 4 text
  let (month, text) ← number? 2 2 (← after? '-' text)
  let (day, text) ← number? 2 2 (← after? '-' text)
  let (hour, text) ← number? 2 2 (← afterSeparator? text)
  let (minute, text) ← number? 2 2 (← after? ':' text)
  let (second, text) ← number? 2 2 (← after? ':' text)
  let (nano, text) ← fraction? text
  let (offset, text) ← offset? (after? ':') text
  guard text.isEmpty
  Fields.instant? ⟨⟨year, month, day⟩, hour, minute, second, nano⟩ offset

/-- A year: blanks, then up to four digits, or a sign and any number of them. -/
def year? (text : List Char) : Option (Int × List Char) :=
  match Text.dropBlanks text with
  | '-' :: rest => (number? 1 rest.length rest).map fun (value, left) => (-(value : Int), left)
  | '+' :: rest => (number? 1 rest.length rest).map fun (value, left) => ((value : Int), left)
  | rest => (number? 1 4 rest).map fun (value, left) => ((value : Int), left)

/-- A field of one or two digits, with blanks before it. -/
def field? (text : List Char) : Option (Nat × List Char) := number? 1 2 (Text.dropBlanks text)

/-- The text after a mark that may have blanks before it. -/
def afterBlanksAnd? (mark : Char) (text : List Char) : Option (List Char) :=
  after? mark (Text.dropBlanks text)

/-- Passes over colons and blanks. -/
def skipColons (text : List Char) : List Char :=
  text.dropWhile fun c => c = ':' || Text.isBlank c

/-- Passes over the letters of UTC, in any case. -/
def afterUtc? (text : List Char) : Option (List Char) :=
  if (text.take 3).map Char.toLower = ['u', 't', 'c'] then some (text.drop 3) else none

/-- Reads a timestamp with the freedoms listed above. -/
def lenient? (text : List Char) : Option Instant := do
  let (year, text) ← year? text
  let (month, text) ← field? (← afterBlanksAnd? '-' text)
  let (day, text) ← field? (← afterBlanksAnd? '-' text)
  let (hour, text) ← field? (← afterSeparator? text)
  let (minute, text) ← field? (← afterBlanksAnd? ':' text)
  let (second, text) ← field? (← afterBlanksAnd? ':' text)
  let (nano, text) ← fraction? text
  let text := Text.dropBlanks text
  let (offset, text) ← match afterUtc? text with
    | some rest => some (0, rest)
    | none => offset? (fun rest => some (skipColons rest)) text
  guard (Text.dropBlanks text).isEmpty
  Fields.instant? ⟨⟨year, month, day⟩, hour, minute, second, nano⟩ offset

/-- Reads a date alone, as its midnight. -/
def day? (text : List Char) : Option Instant := do
  let (year, text) ← year? text
  let (month, text) ← field? (← after? '-' text)
  let (day, text) ← field? (← after? '-' text)
  guard text.isEmpty
  Fields.instant? ⟨⟨year, month, day⟩, 0, 0, 0, 0⟩ 0

/-- A natural number with zeros in front of it up to a width. -/
def padded (width n : Nat) : List Char :=
  let digits := Nat.toDigits 10 n
  List.replicate (width - digits.length) '0' ++ digits

/-- A year: four digits, or a sign and at least four. -/
def yearText (year : Int) : List Char :=
  if 0 ≤ year ∧ year ≤ 9999 then padded 4 year.toNat
  else (if year < 0 then '-' else '+') :: padded 4 year.natAbs

/-- A fraction of a second: nothing, or three, six or nine digits after a point. -/
def fractionText (nano : Nat) : List Char :=
  if nano = 0 then []
  else if nano % 1000000 = 0 then '.' :: padded 3 (nano / 1000000)
  else if nano % 1000 = 0 then '.' :: padded 6 (nano / 1000)
  else '.' :: padded 9 nano

/-- The RFC 3339 form of an instant, in UTC. -/
def text (instant : Instant) : List Char :=
  let date := Date.ofDayNumber (instant.second / 86400)
  let ofDay := (instant.second % 86400).toNat
  let leap := instant.nano / 1000000000
  yearText date.year ++ '-' :: padded 2 date.month ++ '-' :: padded 2 date.day ++
    'T' :: padded 2 (ofDay / 3600) ++ ':' :: padded 2 (ofDay / 60 % 60) ++
    ':' :: padded 2 (ofDay % 60 + leap) ++ fractionText (instant.nano % 1000000000) ++ ['Z']

end Audience.Timestamp
