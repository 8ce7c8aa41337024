import Audience.Numeric.Binary64

/-!
# Decimal forms of binary64 numbers

* **`Decimal`**: `digits * 10 ^ exponent`, and the magnitude nearest to it.
* **`Magnitude.shortest`**: the decimal written for a magnitude. It lies on the coarsest decimal grid
  that has a point reading back as the magnitude, and is the nearer of the two grid points beside it,
  the upper one on a tie. It always reads back (`shortest_reads_back`).
* **`Decimal.positional`**, **`Decimal.scientific`**: the text with zeros and a point, and with an
  exponent.
* **`Binary64.plain`**: the text of a number, positional at every size: `0.1`, `1e21` as
  `1000000000000000000000`, `-0`, `NaN`, `-inf`.
-/

namespace Audience

/-- The number `digits * 10 ^ exponent`. -/
structure Decimal where
  digits : Nat
  exponent : Int
  deriving DecidableEq, Inhabited

namespace Decimal

/-- The magnitude nearest to a decimal, if it is not past the largest. -/
def nearest? (x : Decimal) : Option Magnitude :=
  if 0 ≤ x.exponent then Magnitude.nearest? (x.digits * 10 ^ x.exponent.toNat) 1
  else Magnitude.nearest? x.digits (10 ^ (-x.exponent).toNat)

/-- The text of a natural number in base ten. -/
def natText (n : Nat) : List Char := Nat.toDigits 10 n

/-- The positional text: the digits, with zeros after them or a point among or before them. -/
def positional (x : Decimal) : List Char :=
  let digits := natText x.digits
  if 0 ≤ x.exponent then
    if x.digits = 0 then digits else digits ++ List.replicate x.exponent.toNat '0'
  else
    let places := (-x.exponent).toNat
    let padded := List.replicate (places + 1 - digits.length) '0' ++ digits
    padded.take (padded.length - places) ++ '.' :: padded.drop (padded.length - places)

/-- How many digits stand before the point; when negative, how many zeros stand behind it. -/
def point (x : Decimal) : Int := (natText x.digits).length + x.exponent

/-- Places behind the point; without places there is no point. -/
def pointed : List Char → List Char
  | [] => []
  | place :: places => '.' :: place :: places

/-- The text with an exponent: one digit before the point, the others behind it. -/
def scientific (x : Decimal) : List Char :=
  let digits := natText x.digits
  let exponent := x.point - 1
  digits.take 1 ++ pointed (digits.drop 1) ++
    'e' :: ((if exponent < 0 then ['-'] else []) ++ natText exponent.natAbs)

end Decimal

namespace Magnitude

/-- The magnitude as a quotient by a power of ten: `(num, den)` with `size / 10 ^ exponent` equal to
`num / den`. -/
def inPowersOfTen (size : Magnitude) (exponent : Int) : Nat × Nat :=
  if 0 ≤ exponent then (size.quanta, unit * 10 ^ exponent.toNat)
  else (size.quanta * 10 ^ (-exponent).toNat, unit)

/-- The point of the grid of multiples of `10 ^ exponent` that is written for a magnitude: of the
points beside it that read back, the nearer one. -/
def gridPoint? (size : Magnitude) (exponent : Int) : Option Decimal :=
  let (num, den) := size.inPowersOfTen exponent
  let lower : Decimal := ⟨num / den, exponent⟩
  let upper : Decimal := ⟨num / den + 1, exponent⟩
  let (first, second) := if 2 * (num % den) < den then (lower, upper) else (upper, lower)
  if first.nearest? = some size then some first
  else if second.nearest? = some size then some second
  else none

/-- Looks for a grid point on ever finer grids. -/
def searchGrids (size : Magnitude) (exponent : Int) : Nat → Option Decimal
  | 0 => none
  | grids + 1 =>
      match size.gridPoint? exponent with
      | some point => some point
      | none => searchGrids size (exponent - 1) grids

/-- `log₁₀` of the magnitude, rounded up: no coarser grid has a point that reads back. -/
def coarsestExponent (size : Magnitude) : Int :=
  ((size.quanta.log2 : Int) - 1074) * 30103 / 100000 + 1

/-- The whole decimal expansion of a magnitude. -/
def expansion (size : Magnitude) : Decimal := ⟨size.quanta * 5 ^ 1074, -1074⟩

/-- The decimal written for a magnitude: the point found on the grids from `10` times coarser than
the magnitude down to nineteen digits, and past these the whole expansion. -/
def shortest (size : Magnitude) : Decimal :=
  if size.quanta = 0 then ⟨0, 0⟩
  else (size.searchGrids size.coarsestExponent 20).getD size.expansion

end Magnitude

namespace Binary64

/-- The positional text of a number. -/
def plain : Binary64 → String
  | nan => "NaN"
  | infinite negative => if negative then "-inf" else "inf"
  | finite negative size =>
      String.ofList ((if negative then ['-'] else []) ++ size.shortest.positional)

end Binary64

end Audience
