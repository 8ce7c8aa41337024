import Audience.Json.Number
import Audience.Proofs.Numeric.Grid
import Audience.Proofs.Text.Digits

/-!
# Numbers that come back from their decimals

A reader of documents takes a significand and an exponent from the text of a number, rounds the
significand to 53 bits and multiplies it with a rounded power of ten, which is rounded once more. So a
number need not come back as it was written. It always comes back as some number, and as itself when the
significand and the power are exact.

* **`Decimal.read?`**: what a reader makes of a decimal. **`Decimal.read?_eq_nearest?`**: when that is
  the nearest magnitude.
* **`Decimal.taken`**: the decimal that a reader takes from the text of a number.
* **`Magnitude.reread`**: what comes back of a magnitude. **`Magnitude.read?_taken`**: it does come back,
  also next to the largest one. **`Magnitude.IsShort`**, **`Magnitude.reread_eq_self`**: when it comes
  back as itself.
-/

namespace Audience

/-! ### Rounded whole numbers -/

namespace Rounding

variable {n k : Nat}

/-- Rounding changes a whole number by less than an eighth of it. -/
theorem rounded_bounds (n : Nat) : 8 * rounded n ≤ 9 * n ∧ 8 * n ≤ 9 * rounded n := by
  by_cases h : n ≤ 2 ^ 53
  · rw [rounded_of_le h]
    omega
  · have hlarge : 2 ^ 52 ≤ n * unit := by
      have hle := Nat.mul_le_mul (Nat.le_of_not_le h) unit_pos
      omega
    have hzero : n * unit ≠ 0 := by omega
    have hlog := (Nat.le_log2 hzero).2 hlarge
    have hspacing : 2 ^ 52 * spacing (n * unit) ≤ n * unit := by
      rw [spacing, ← Nat.pow_add, Nat.add_sub_cancel' hlog]
      exact Nat.log2_self_le hzero
    have herror := nearestSpaced_error (n * unit) Nat.one_pos
    rw [← rounded_mul_unit, Nat.div_one, Nat.mul_one, Nat.one_mul] at herror
    constructor <;>
    · refine Nat.le_of_mul_le_mul_right ?_ unit_pos
      rw [Nat.mul_assoc, Nat.mul_assoc]
      omega

/-- The number nearest to a whole number is below the ceiling. -/
def Fits (n : Nat) : Prop := rounded n * unit < ceiling

instance (n : Nat) : Decidable (Fits n) := inferInstanceAs (Decidable (_ < _))

theorem Fits.of_le (hk : Fits k) (h : n ≤ k) : Fits n :=
  Nat.lt_of_le_of_lt (Nat.mul_le_mul_right unit (rounded_mono h)) hk

theorem fits_ten_pow (hk : k ≤ 308) : Fits (10 ^ k) := by
  obtain ⟨j, hj⟩ : ∃ j, j = 308 := ⟨308, rfl⟩
  have hlargest : Fits (10 ^ j) := by
    rw [hj]
    decide +kernel
  exact hlargest.of_le (Nat.pow_le_pow_right (by decide) (hj ▸ hk))

theorem fits_of_le_eighteen (h : n ≤ 10 ^ 18) : Fits n :=
  (fits_ten_pow (k := 18) (by decide)).of_le h

theorem rounded_ten_pow (hk : k ≤ 22) : rounded (10 ^ k) = 10 ^ k := by
  have hall : ∀ k ≤ 22, rounded (10 ^ k) = 10 ^ k := by decide +kernel
  exact hall k hk

theorem rounded_pos (h : 0 < n) : 0 < rounded n := by
  have hbounds := rounded_bounds n
  omega

end Rounding

/-! ### Magnitudes that are whole numbers -/

namespace Magnitude

open Rounding

variable {x y : Magnitude} {a b n k : Nat} {exponent : Int}

theorem exists_ofNat? (h : Fits n) : ∃ size, ofNat? n = some size ∧ size.quanta = rounded n * unit := by
  have hlt : nearestSpaced (n * unit) 1 < ceiling := rounded_mul_unit n ▸ h
  exact ⟨_, dif_pos hlt, (rounded_mul_unit n).symm⟩

theorem mul?_eq (hx : x.quanta = a * unit) (hy : y.quanta = b * unit) : x.mul? y = ofNat? (a * b) := by
  have hscale : nearestSpaced (a * b * unit * unit) (1 * unit) = nearestSpaced (a * b * unit) 1 :=
    nearestSpaced_scale unit_pos
  rw [Nat.one_mul] at hscale
  have hproduct : a * unit * (b * unit) = a * b * unit * unit := by
    rw [Nat.mul_mul_mul_comm, ← Nat.mul_assoc]
  rw [mul?, ofNat?, nearest?, hx, hy, hproduct]
  simp only [nearestQuanta?, hscale]

theorem div?_eq (hx : x.quanta = a * unit) (hy : y.quanta = b * unit) : x.div? y = nearest? a b := by
  rw [div?, nearest?, hx, hy]
  simp only [nearestQuanta?, nearestSpaced_scale unit_pos]

/-- A quotient by one or more is no larger than the dividend. -/
theorem exists_div? (hy : unit ≤ y.quanta) : ∃ z, x.div? y = some z := by
  have hpos : 0 < y.quanta := Nat.lt_of_lt_of_le unit_pos hy
  have hle : x.quanta * unit ≤ x.quanta * y.quanta := Nat.mul_le_mul_left _ hy
  have hquotient : x.quanta * unit / y.quanta ≤ x.quanta := by
    refine Nat.div_le_of_le_mul ?_
    rwa [Nat.mul_comm y.quanta]
  have hround : nearestSpaced (x.quanta * unit) y.quanta ≤ x.quanta :=
    nearestSpaced_le_of_le hpos hle (spacing_dvd_of_le x.isFloat_quanta hquotient)
  exact ⟨_, dif_pos (Nat.lt_of_le_of_lt hround x.representable.1)⟩

end Magnitude

/-! ### Scaling by powers of ten -/

namespace Json.Number

open Rounding Magnitude

variable {x : Magnitude} {n k : Nat} {exponent : Int}

theorem scale_natCast (hk : k ≤ 308) :
    scale x k = (Magnitude.ofNat? (10 ^ k)).bind fun power => x.mul? power := by
  rw [scale, if_pos (by omega), if_neg (by omega), Int.natAbs_natCast]
  simp only [if_pos (Int.natCast_nonneg k), Option.bind_eq_bind]

theorem scale_neg (hpos : 0 < k) (hk : k ≤ 308) :
    scale x (-k) = (Magnitude.ofNat? (10 ^ k)).bind fun power => x.div? power := by
  rw [scale, if_pos (by omega), if_neg (by omega), Int.natAbs_neg, Int.natAbs_natCast]
  simp only [if_neg (show ¬ 0 ≤ -(k : Int) by omega), Option.bind_eq_bind]

theorem exists_power (hk : k ≤ 308) :
    ∃ power, Magnitude.ofNat? (10 ^ k) = some power ∧ power.quanta = rounded (10 ^ k) * unit ∧
      unit ≤ power.quanta := by
  obtain ⟨power, hpower, hquanta⟩ := exists_ofNat? (fits_ten_pow hk)
  refine ⟨power, hpower, hquanta, ?_⟩
  rw [hquanta]
  exact Nat.le_mul_of_pos_left _ (rounded_pos (Nat.pow_pos (by decide)))

/-- A small exponent is taken in steps. -/
theorem scale_of_lt (h : exponent < -308) (hx : x.quanta ≠ 0) :
    scale x exponent = (Magnitude.ofNat? (10 ^ 308)).bind fun power =>
      (x.div? power).bind fun y => scale y (exponent + 308) := by
  rw [scale, if_neg (by omega), if_neg hx]
  simp only [Option.bind_eq_bind]

/-- Nothing is too large to be scaled down. -/
theorem exists_scale_of_neg (x : Magnitude) (h : exponent < 0) : ∃ z, scale x exponent = some z := by
  obtain ⟨k, rfl⟩ : ∃ k : Nat, exponent = -(k : Int) := ⟨exponent.natAbs, by omega⟩
  induction k using Nat.strongRecOn generalizing x with
  | ind k ih =>
    by_cases hk : k ≤ 308
    · obtain ⟨power, hpower, -, hle⟩ := exists_power hk
      rw [scale_neg (by omega) hk, hpower, Option.bind_some]
      exact exists_div? hle
    · by_cases hzero : x.quanta = 0
      · exact ⟨x, by rw [scale, if_neg (by omega), if_pos hzero]⟩
      · obtain ⟨power, hpower, -, hle⟩ := exists_power (Nat.le_refl 308)
        obtain ⟨y, hy⟩ := exists_div? (x := x) hle
        have hnext : -(k : Int) + 308 = -((k - 308 : Nat) : Int) := by omega
        rw [scale_of_lt (by omega) hzero, hpower, Option.bind_some, hy, Option.bind_some, hnext]
        exact ih (k - 308) (by omega) y (by omega)

end Json.Number

/-! ### Decimals as they are read -/

namespace Decimal

open Rounding

/-- What a reader makes of a decimal: the digits are rounded, and then scaled. -/
def read? (x : Decimal) : Option Magnitude :=
  (Magnitude.ofNat? x.digits).bind fun size => Json.Number.scale size x.exponent

theorem ofParts?_eq (negative : Bool) (x : Decimal) :
    Json.Number.ofParts? negative x.digits x.exponent = x.read?.map (Json.Number.real negative) := by
  rw [Json.Number.ofParts?, read?]
  cases Magnitude.ofNat? x.digits with
  | none => rfl
  | some size => cases h : Json.Number.scale size x.exponent <;> simp [h]

/-- Exact digits and an exact power leave one rounding, to the nearest magnitude. -/
theorem read?_eq_nearest? {x : Decimal} (hdigits : x.digits ≤ 2 ^ 53) (hpower : x.exponent.natAbs ≤ 22) :
    x.read? = x.nearest? := by
  obtain ⟨digits, exponent⟩ := x
  have hfits : Fits digits := fits_of_le_eighteen (Nat.le_trans hdigits (by decide))
  obtain ⟨size, hsize, hquanta⟩ := Magnitude.exists_ofNat? hfits
  obtain ⟨power, hten, htens, -⟩ := Json.Number.exists_power (Nat.le_trans hpower (by decide))
  rw [rounded_of_le hdigits] at hquanta
  rw [rounded_ten_pow hpower] at htens
  rw [read?, hsize, Option.bind_some]
  rcases Int.lt_or_le exponent 0 with hneg | hnonneg
  · obtain ⟨k, rfl⟩ : ∃ k : Nat, exponent = -(k : Int) := ⟨exponent.natAbs, by omega⟩
    rw [Int.natAbs_neg, Int.natAbs_natCast] at *
    rw [Json.Number.scale_neg (by omega) (by omega), hten, Option.bind_some,
      Magnitude.div?_eq hquanta htens, nearest?_neg (by omega)]
  · obtain ⟨k, rfl⟩ := Int.eq_ofNat_of_zero_le hnonneg
    rw [Int.natAbs_natCast] at *
    rw [Json.Number.scale_natCast (by omega), hten, Option.bind_some,
      Magnitude.mul?_eq hquanta htens, nearest?_ofNat, Magnitude.ofNat?]

/-- The decimal that a reader takes from the text of a number: of a whole number with a zero behind the
point, the zero belongs to the digits. -/
def taken (x : Decimal) : Decimal :=
  if 0 ≤ x.exponent ∧ x.point ≤ 16 then ⟨x.digits * 10 ^ (x.exponent.toNat + 1), -1⟩ else x

theorem digits_lt (x : Decimal) : x.digits < 10 ^ (natText x.digits).length := by
  have hvalue := Text.digitsValue_lt (fun _ => Text.isDigit_of_mem_toDigits (n := x.digits)) 0
  rwa [Text.digitsValue_toDigits, Nat.zero_add, Nat.one_mul] at hvalue

/-- A whole number with a zero behind the point has at most seventeen digits. -/
theorem digits_taken_le {x : Decimal} (hnonneg : 0 ≤ x.exponent) (hpoint : x.point ≤ 16) :
    x.digits * 10 ^ (x.exponent.toNat + 1) ≤ 10 ^ 17 := by
  have hlength : (natText x.digits).length + (x.exponent.toNat + 1) ≤ 17 := by
    rw [point] at hpoint
    omega
  calc x.digits * 10 ^ (x.exponent.toNat + 1)
      ≤ 10 ^ (natText x.digits).length * 10 ^ (x.exponent.toNat + 1) :=
        Nat.mul_le_mul_right _ (Nat.le_of_lt x.digits_lt)
    _ = 10 ^ ((natText x.digits).length + (x.exponent.toNat + 1)) := (Nat.pow_add _ _ _).symm
    _ ≤ 10 ^ 17 := Nat.pow_le_pow_right (by decide) hlength

/-- The zero behind the point changes nothing. -/
theorem nearest?_taken (x : Decimal) : x.taken.nearest? = x.nearest? := by
  rw [taken]
  split
  · rename_i h
    obtain ⟨digits, exponent⟩ := x
    obtain ⟨zeros, rfl⟩ := Int.eq_ofNat_of_zero_le h.1
    have hscale : nearestSpaced (digits * 10 ^ zeros * unit * 10) (1 * 10) =
        nearestSpaced (digits * 10 ^ zeros * unit) 1 := nearestSpaced_scale (by decide)
    have hzero : digits * 10 ^ (zeros + 1) * unit = digits * 10 ^ zeros * unit * 10 := by
      rw [Nat.pow_succ, ← Nat.mul_assoc, Nat.mul_right_comm]
    show nearest? ⟨digits * 10 ^ (zeros + 1), -(1 : Nat)⟩ = nearest? ⟨digits, zeros⟩
    rw [nearest?_neg Nat.one_pos, nearest?_ofNat, Nat.pow_one, Magnitude.nearest?, Magnitude.nearest?,
      hzero]
    simp only [Magnitude.nearestQuanta?, ← hscale, Nat.one_mul]
  · rfl

end Decimal

/-! ### Magnitudes that come back -/

namespace Magnitude

open Rounding

variable {size : Magnitude}

/-- What comes back of a magnitude from its decimal. -/
def reread (size : Magnitude) : Magnitude := size.shortest.taken.read?.getD size

/-- The largest magnitude. -/
def largest : Magnitude := ⟨2 ^ 2098 - 2 ^ 2045, by decide +kernel⟩

/-- The digits of the largest magnitude before so many others. -/
def mostDigits (zeros : Nat) : Nat := largest.toNat / 10 ^ zeros

/-- Next to the largest magnitude: its digits do not leave the range, the digits past the next ones do
even when they are exact, and the next ones are not written. -/
theorem mostDigits_spec : ∀ more < 17,
    Fits (rounded (mostDigits (292 + more)) * rounded (10 ^ (292 + more))) ∧
      ¬ Fits ((mostDigits (292 + more) + 2) * 10 ^ (292 + more)) ∧
      ∀ size ∈ Decimal.nearest? ⟨mostDigits (292 + more) + 1, (292 + more : Nat)⟩,
        size.shortest ≠ ⟨mostDigits (292 + more) + 1, (292 + more : Nat)⟩ := by
  decide +kernel

/-- Up to half the ceiling, rounding twice more does not leave the range. -/
theorem fits_rounded_of_le {digits power : Nat} (h : 2 * (rounded (digits * power) * unit) ≤ ceiling) :
    Fits (rounded digits * rounded power) := by
  have hproduct := Nat.mul_le_mul (rounded_bounds digits).1 (rounded_bounds power).1
  have hresult := (rounded_bounds (rounded digits * rounded power)).1
  have hexact := (rounded_bounds (digits * power)).2
  rw [Nat.mul_mul_mul_comm, Nat.mul_mul_mul_comm 9] at hproduct
  have hbound : 4096 * rounded (rounded digits * rounded power) ≤
      6561 * rounded (digits * power) := by omega
  have hquanta := Nat.mul_le_mul_right unit hbound
  rw [Nat.mul_assoc, Nat.mul_assoc] at hquanta
  have hpos := ceiling_pos
  unfold Fits
  omega

theorem quanta_of_ofNat? (h : ofNat? n = some size) : size.quanta = rounded n * unit := by
  have hsize : size.quanta = nearestSpaced (n * unit) 1 := by
    rw [ofNat?, nearest?, nearestQuanta?] at h
    split at h
    · cases h
      rfl
    · cases h
  rw [hsize, rounded_mul_unit]

/-- The digits and the power of a decimal that is written stay in the range when both are rounded. -/
theorem fits_rounded_shortest {zeros : Nat} (hzeros : size.shortest.exponent = zeros) :
    Fits (rounded size.shortest.digits * rounded (10 ^ zeros)) := by
  have hshortest : size.shortest = ⟨size.shortest.digits, zeros⟩ := by rw [← hzeros]
  have hback := size.shortest_reads_back
  rw [hshortest] at hback
  generalize size.shortest.digits = digits at *
  have hquanta : size.quanta = rounded (digits * 10 ^ zeros) * unit := by
    rw [Decimal.nearest?_ofNat] at hback
    exact quanta_of_ofNat? hback
  by_cases hhalf : 2 * size.quanta ≤ ceiling
  · exact fits_rounded_of_le (hquanta ▸ hhalf)
  · have hleast := le_exponent_shortest (Nat.lt_of_not_le hhalf)
    have hmost := size.exponent_shortest_bounds.2
    obtain ⟨more, rfl⟩ : ∃ more, zeros = 292 + more := ⟨zeros - 292, by omega⟩
    obtain ⟨hfits, hpast, hnext⟩ := mostDigits_spec more (by omega)
    have hwhole : Fits (digits * 10 ^ (292 + more)) := by
      rw [Fits, ← hquanta]
      exact size.representable.1
    rcases Nat.lt_trichotomy digits (mostDigits (292 + more) + 1) with hlt | heq | hgt
    · exact hfits.of_le (Nat.mul_le_mul_right _ (rounded_mono (Nat.le_of_lt_succ hlt)))
    · subst heq
      exact absurd hshortest (hnext size hback)
    · exact absurd (hwhole.of_le (Nat.mul_le_mul_right _ hgt)) hpast

/-- Every magnitude comes back from its decimal as some magnitude. -/
theorem exists_read?_taken (size : Magnitude) : ∃ back, size.shortest.taken.read? = some back := by
  have hread : ∀ digits exponent, digits ≤ 10 ^ 18 → exponent < 0 →
      ∃ back, Decimal.read? ⟨digits, exponent⟩ = some back := by
    intro digits exponent hdigits hneg
    obtain ⟨start, hstart, -⟩ := exists_ofNat? (fits_of_le_eighteen hdigits)
    obtain ⟨back, hback⟩ := Json.Number.exists_scale_of_neg start hneg
    exact ⟨back, by rw [Decimal.read?, hstart, Option.bind_some, hback]⟩
  have hdigits := size.digits_shortest_le
  rw [Decimal.taken]
  split
  · rename_i h
    exact hread _ _ (Nat.le_trans (Decimal.digits_taken_le h.1 h.2) (by decide)) (by decide)
  · rcases Int.lt_or_le size.shortest.exponent 0 with hneg | hnonneg
    · exact hread _ _ hdigits hneg
    · obtain ⟨zeros, hzeros⟩ := Int.eq_ofNat_of_zero_le hnonneg
      have hmost := size.exponent_shortest_bounds.2
      obtain ⟨start, hstart, hquanta⟩ := exists_ofNat? (fits_of_le_eighteen hdigits)
      obtain ⟨power, hpower, hten, -⟩ := Json.Number.exists_power (k := zeros) (by omega)
      obtain ⟨back, hback, -⟩ := exists_ofNat? (fits_rounded_shortest hzeros)
      refine ⟨back, ?_⟩
      rw [Decimal.read?, hstart, Option.bind_some, hzeros, Json.Number.scale_natCast (by omega), hpower,
        Option.bind_some, mul?_eq hquanta hten, hback]

theorem read?_taken (size : Magnitude) : size.shortest.taken.read? = some size.reread := by
  obtain ⟨back, hback⟩ := size.exists_read?_taken
  rw [reread, hback, Option.getD_some]

/-- The digits and the power that a reader takes from the text of the magnitude are exact: at most
`2 ^ 53` and `10 ^ 22`. -/
structure IsShort (size : Magnitude) : Prop where
  digits : size.shortest.taken.digits ≤ 2 ^ 53
  power : size.shortest.taken.exponent.natAbs ≤ 22

instance (size : Magnitude) : Decidable size.IsShort :=
  decidable_of_iff (size.shortest.taken.digits ≤ 2 ^ 53 ∧ size.shortest.taken.exponent.natAbs ≤ 22)
    ⟨fun h => ⟨h.1, h.2⟩, fun h => ⟨h.digits, h.power⟩⟩

/-- A short magnitude comes back as itself. -/
theorem reread_eq_self (h : size.IsShort) : size.reread = size := by
  have hback := size.read?_taken
  rw [Decimal.read?_eq_nearest? h.digits h.power, Decimal.nearest?_taken, shortest_reads_back] at hback
  exact (Option.some.inj hback).symm

end Magnitude

namespace Binary64

/-- What comes back of a number, if it is finite. -/
def reread : Binary64 → Binary64
  | finite negative size => finite negative size.reread
  | value => value

/-- The number is short, if it is finite. -/
def IsShort : Binary64 → Prop
  | finite _ size => size.IsShort
  | _ => True

instance : (value : Binary64) → Decidable value.IsShort
  | finite _ size => inferInstanceAs (Decidable size.IsShort)
  | nan | infinite _ => inferInstanceAs (Decidable True)

theorem reread_eq_self {value : Binary64} (h : value.IsShort) : value.reread = value := by
  cases value with
  | finite negative size => rw [reread, Magnitude.reread_eq_self h]
  | _ => rfl

theorem isFinite_reread (value : Binary64) : value.reread.isFinite = value.isFinite := by
  cases value with
  | finite negative size => rw [reread, isFinite, isFinite]
  | _ => rfl

end Binary64

end Audience
