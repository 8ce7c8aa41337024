import Audience.Numeric.Decimal
import Audience.Text.DecimalDigit

/-!
# Reading numbers from text

* **`Binary64.ofChars?`**: a decimal with an optional sign, point and exponent, or a name of an
  infinity or NaN in any case; the number nearest to it.
* **`Text.integer?`**, **`Text.natural?`**: signed and unsigned integers in ASCII digits.
-/

namespace Audience

namespace Text

/-- A text of ASCII digits, at least one. -/
def isDigits (text : List Char) : Bool := !text.isEmpty && text.all Char.isDigit

/-- An unsigned integer with an optional plus sign. -/
def natural? (text : List Char) : Option Nat :=
  let digits := match text with
    | '+' :: rest => rest
    | _ => text
  if isDigits digits then some (digitsValue 0 digits) else none

/-- A sign at the front of a text: whether it is negative, and the rest. -/
def takeSign (text : List Char) : Bool × List Char :=
  match text with
  | '-' :: rest => (true, rest)
  | '+' :: rest => (false, rest)
  | _ => (false, text)

/-- An integer with an optional sign. -/
def integer? (text : List Char) : Option Int :=
  let (negative, digits) := takeSign text
  if isDigits digits then
    some (if negative then -(digitsValue 0 digits : Int) else digitsValue 0 digits)
  else none

end Text

namespace Binary64

/-- The number nearest to `digits * 10 ^ exponent`; `digits` has at most `length` digits. -/
def ofScientific (negative : Bool) (digits length : Nat) (exponent : Int) : Binary64 :=
  if digits = 0 || exponent + length < -400 then .finite negative .zero
  else if 400 < exponent + length then .infinite negative
  else ofSize negative (Decimal.nearest? ⟨digits, exponent⟩)

/-- The exponent behind the digits of a number. -/
def exponent? (text : List Char) : Option Int :=
  match text with
  | [] => some 0
  | c :: rest => if c = 'e' || c = 'E' then Text.integer? rest else none

/-- A number without its sign. -/
def unsigned? (negative : Bool) (text : List Char) : Option Binary64 := do
  let (whole, rest) := text.span Char.isDigit
  let (places, rest) := match rest with
    | '.' :: rest => rest.span Char.isDigit
    | _ => ([], rest)
  let digits := whole ++ places
  if digits.isEmpty then none
  else
    let exponent ← exponent? rest
    some (ofScientific negative (Text.digitsValue 0 digits) digits.length (exponent - places.length))

/-- The number that a text names. -/
def ofChars? (text : List Char) : Option Binary64 :=
  let (negative, rest) := Text.takeSign text
  let name := String.ofList (rest.map Char.toLower)
  if name = "inf" || name = "infinity" then some (.infinite negative)
  else if name = "nan" then some .nan
  else unsigned? negative rest

end Binary64

end Audience
