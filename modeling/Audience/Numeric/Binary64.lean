import Audience.Numeric.Magnitude

/-!
# Binary64 numbers

The values of IEEE 754 binary64 with one NaN. Arithmetic is exact on the counts of quanta and rounds
once, to the nearest number, ties to even; a result past the largest number is infinite.

* **`Binary64`**: NaN, the infinities, and signed magnitudes (so there are two zeros).
* **`add`, `sub`, `mul`, `div`**: the rounded operations.
* **`order?`**: the order of two numbers, absent when one of them is NaN; the zeros are equal.
* **`trunc`, `toWord`**: the integer part, and the integer part as a 64-bit signed integer, clamped to
  its range, NaN giving zero.
* **`ofInt`**: the number nearest to an integer.
* **`toBits`, `ofBits`**: the interchange form.
-/

namespace Audience

/-- A binary64 number. -/
inductive Binary64
  | nan
  | infinite (negative : Bool)
  | finite (negative : Bool) (size : Magnitude)
  deriving DecidableEq

namespace Binary64

instance : Inhabited Binary64 := ⟨.finite false .zero⟩

/-- A magnitude as a signed number. -/
def ofMagnitude (size : Magnitude) : Binary64 := .finite false size

/-- The positive zero. -/
def zero : Binary64 := .finite false .zero

/-- A magnitude that may have passed the largest one. -/
def ofSize (negative : Bool) : Option Magnitude → Binary64
  | some size => .finite negative size
  | none => .infinite negative

/-- The number nearest to a signed quotient of natural numbers. -/
def ofRatio (negative : Bool) (num den : Nat) : Binary64 :=
  ofSize negative (Magnitude.nearest? num den)

/-- The number nearest to an integer. -/
def ofInt (n : Int) : Binary64 := ofRatio (n < 0) n.natAbs 1

/-- The number nearest to a natural number. -/
def ofNat (n : Nat) : Binary64 := ofRatio false n 1

instance {n : Nat} : OfNat Binary64 n := ⟨ofNat n⟩

/-- A finite number as a signed count of quanta. -/
def signedQuanta (negative : Bool) (size : Magnitude) : Int :=
  if negative then -(size.quanta : Int) else size.quanta

/-- The opposite number; the zeros change places. -/
def neg : Binary64 → Binary64
  | nan => nan
  | infinite negative => infinite (!negative)
  | finite negative size => finite (!negative) size

/-- The number without its sign. -/
def abs : Binary64 → Binary64
  | nan => nan
  | infinite _ => infinite false
  | finite _ size => finite false size

/-- The rounded sum. An exact sum of zero is negative only when both terms are. -/
def add : Binary64 → Binary64 → Binary64
  | nan, _ => nan
  | _, nan => nan
  | infinite s, infinite t => if s = t then infinite s else nan
  | infinite s, finite _ _ => infinite s
  | finite _ _, infinite t => infinite t
  | finite s x, finite t y =>
      let sum := signedQuanta s x + signedQuanta t y
      let negative := if sum = 0 then s && t else decide (sum < 0)
      ofSize negative (Magnitude.nearestQuanta? sum.natAbs 1)

/-- The rounded difference. -/
def sub (x y : Binary64) : Binary64 := add x (neg y)

/-- The rounded product. -/
def mul : Binary64 → Binary64 → Binary64
  | nan, _ => nan
  | _, nan => nan
  | infinite s, infinite t => infinite (s != t)
  | infinite s, finite t y => if y.quanta = 0 then nan else infinite (s != t)
  | finite s x, infinite t => if x.quanta = 0 then nan else infinite (s != t)
  | finite s x, finite t y =>
      ofSize (s != t) (x.mul? y)

/-- The rounded quotient. -/
def div : Binary64 → Binary64 → Binary64
  | nan, _ => nan
  | _, nan => nan
  | infinite _, infinite _ => nan
  | infinite s, finite t _ => infinite (s != t)
  | finite s _, infinite t => finite (s != t) .zero
  | finite s x, finite t y =>
      if y.quanta = 0 then
        if x.quanta = 0 then nan else infinite (s != t)
      else
        ofSize (s != t) (x.div? y)

instance : Add Binary64 := ⟨add⟩
instance : Sub Binary64 := ⟨sub⟩
instance : Mul Binary64 := ⟨mul⟩
instance : Div Binary64 := ⟨div⟩
instance : Neg Binary64 := ⟨neg⟩

/-- Where a number that is not NaN stands between the infinities. -/
def signedValue : Binary64 → Int
  | nan => 0
  | infinite negative => if negative then -(ceiling : Int) else ceiling
  | finite negative size => signedQuanta negative size

/-- Whether the number is NaN. -/
def isNaN : Binary64 → Bool
  | nan => true
  | _ => false

/-- Whether the number is neither NaN nor infinite. -/
def isFinite : Binary64 → Bool
  | finite _ _ => true
  | _ => false

/-- The order of two numbers, if neither is NaN. -/
def order? (x y : Binary64) : Option Ordering :=
  if x.isNaN || y.isNaN then none else some (compare x.signedValue y.signedValue)

/-- Whether `x` is below `y`; false when one is NaN. -/
def below (x y : Binary64) : Bool := x.order? y == some .lt

/-- Whether `x` is at most `y`; false when one is NaN. -/
def atMost (x y : Binary64) : Bool := x.order? y == some .lt || x.order? y == some .eq

/-- The integer part, with the sign kept. -/
def trunc : Binary64 → Binary64
  | finite negative size => finite negative size.floor
  | x => x

/-- The least 64-bit signed integer. -/
def leastWord : Int := -(2 ^ 63)

/-- The largest 64-bit signed integer. -/
def largestWord : Int := 2 ^ 63 - 1

/-- An integer moved into the range of 64-bit signed integers. -/
def clampWord (n : Int) : Int := max leastWord (min largestWord n)

/-- The integer part as a 64-bit signed integer; NaN gives zero, and what is out of range gives the
nearer end. -/
def toWord : Binary64 → Int
  | nan => 0
  | infinite negative => if negative then leastWord else largestWord
  | finite negative size =>
      clampWord (if negative then -(size.toNat : Int) else size.toNat)

/-- The 63 bits of a magnitude: biased exponent and trailing significand. -/
def magnitudeBits (size : Magnitude) : Nat :=
  let shift := size.quanta.log2 - 52
  if size.quanta < 2 ^ 52 then size.quanta
  else (shift + 1) * 2 ^ 52 + (size.quanta / 2 ^ shift - 2 ^ 52)

/-- The interchange form of a number. -/
def toBits : Binary64 → UInt64
  | nan => 0x7ff8000000000000
  | infinite negative => if negative then 0xfff0000000000000 else 0x7ff0000000000000
  | finite negative size =>
      UInt64.ofNat ((if negative then 2 ^ 63 else 0) + magnitudeBits size)

/-- The number of an interchange form; every pattern of a NaN gives the one NaN. -/
def ofBits (bits : UInt64) : Binary64 :=
  let n := bits.toNat
  let negative := decide (2 ^ 63 ≤ n)
  let exponent := n / 2 ^ 52 % 2 ^ 11
  let trailing := n % 2 ^ 52
  if exponent = 2047 then
    if trailing = 0 then infinite negative else nan
  else if exponent = 0 then
    ofSize negative (Magnitude.nearestQuanta? trailing 1)
  else
    ofSize negative (Magnitude.nearestQuanta? ((2 ^ 52 + trailing) * 2 ^ (exponent - 1)) 1)

/-- The number as a machine float. -/
def toFloat (x : Binary64) : Float := Float.ofBits x.toBits

/-- A machine float as a number. -/
def ofFloat (x : Float) : Binary64 := ofBits x.toBits

end Binary64

end Audience
