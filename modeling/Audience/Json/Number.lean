import Audience.Numeric.Binary64
import Audience.Text.DecimalDigit

/-!
# Numbers of JSON documents

A number written without fraction and exponent is kept as an integer while it fits 64 bits, signed
or unsigned; every other number is a finite binary64 number.

* **`Json.Number`**: an integer in range, or a signed magnitude.
* **`Json.Number.toBinary64`**: the binary64 number nearest to it.
* **`Json.Number.ofSpelling?`**: the number a spelling denotes. Its digits are gathered into a
  64-bit significand as long as they fit; the digits past it only move the decimal point. The
  significand is rounded to binary64 and then scaled by a power of ten, with a rounding of its own.
  A number too large for binary64 is refused.
-/

namespace Audience.Json

/-- A number of a JSON document. -/
inductive Number
  | integer (value : Int) (fits : -(2 ^ 63) ≤ value ∧ value < 2 ^ 64)
  | real (negative : Bool) (size : Magnitude)
  deriving DecidableEq

namespace Number

instance : Inhabited Number := ⟨.real false .zero⟩

/-- The binary64 number nearest to the number. -/
def toBinary64 : Number → Binary64
  | integer value _ => .ofInt value
  | real negative size => .finite negative size

/-- An integer as a number, if it fits. -/
def ofInt? (value : Int) : Option Number :=
  if h : -(2 ^ 63) ≤ value ∧ value < 2 ^ 64 then some (.integer value h) else none

/-- A finite binary64 number as a number. -/
def ofBinary64? : Binary64 → Option Number
  | .finite negative size => some (.real negative size)
  | _ => none

/-- How a number is written. -/
structure Spelling where
  negative : Bool
  whole : List Char
  fraction : Option (List Char)
  /-- Whether the exponent is negative, and its digits. -/
  exponent : Option (Bool × List Char)

/-- Gathers digits after those of `significand` while the whole fits 64 bits; the second component is
the digits left over. -/
def gather (significand : Nat) : List Char → Nat × List Char
  | [] => (significand, [])
  | c :: rest =>
      let next := Text.digitsValue significand [c]
      if next < 2 ^ 64 then gather next rest else (significand, c :: rest)

/-- A magnitude times a power of ten, in steps of at most `10 ^ 308`, each rounded; `none` when the
result is too large. -/
def scale (x : Magnitude) (exponent : Int) : Option Magnitude :=
  if -308 ≤ exponent then
    if 308 < exponent then
      if x.quanta = 0 then some x else none
    else do
      let power ← Magnitude.ofNat? (10 ^ exponent.natAbs)
      if 0 ≤ exponent then x.mul? power else x.div? power
  else if x.quanta = 0 then some x
  else do
    let power ← Magnitude.ofNat? (10 ^ 308)
    scale (← x.div? power) (exponent + 308)
termination_by exponent.natAbs

/-- The real number with a significand and a decimal exponent. -/
def ofParts? (negative : Bool) (significand : Nat) (exponent : Int) : Option Number := do
  let size ← scale (← Magnitude.ofNat? significand) exponent
  return .real negative size

/-- The real number with a significand, a decimal exponent, and a written exponent on top. A written
exponent past 32 bits leaves only zero. -/
def withExponent? (negative : Bool) (significand : Nat) (exponent : Int)
    (written : Option (Bool × List Char)) : Option Number :=
  match written with
  | none => ofParts? negative significand exponent
  | some (down, digits) =>
      let shift := Text.digitsValue 0 digits
      if shift < 2 ^ 31 then
        ofParts? negative significand (if down then exponent - shift else exponent + shift)
      else if significand = 0 || down then some (.real negative .zero)
      else none

/-- The number of a spelling without fraction and exponent whose digits fit 64 bits; the negative
zero is real. -/
def ofSignificand? (negative : Bool) (significand : Nat) : Option Number :=
  let value : Int := if negative then -(significand : Int) else significand
  if negative && significand = 0 then some (.real true .zero)
  else ofInt? value <|> ofParts? negative significand 0

/-- The number a spelling denotes. -/
def ofSpelling? (spelling : Spelling) : Option Number :=
  let (head, dropped) := gather 0 spelling.whole
  match spelling.fraction with
  | none =>
      if dropped.isEmpty && spelling.exponent.isNone then ofSignificand? spelling.negative head
      else withExponent? spelling.negative head dropped.length spelling.exponent
  | some fraction =>
      let (significand, ignored) := gather head fraction
      let places : Int := fraction.length - ignored.length
      withExponent? spelling.negative significand (dropped.length - places) spelling.exponent

end Number

end Audience.Json
