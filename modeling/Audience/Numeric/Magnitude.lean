import Audience.Numeric.Rounding

/-!
# Magnitudes: the non-negative finite binary64 numbers

A magnitude is kept as the whole number of *quanta* it holds, a quantum being `2⁻¹⁰⁷⁴`, the
smallest positive binary64 number. Every non-negative finite binary64 number is such a whole number,
so sums, products, order and integer parts are those of natural numbers, followed by one rounding.

* **`Representable`**: which counts of quanta are binary64 numbers.
* **`Magnitude.nearest?`**: the magnitude nearest to a quotient of natural numbers, ties to even, or
  `none` past the largest.
* **`Magnitude.floor`**: the integer part, itself a magnitude.
-/

namespace Audience

/-- The number of quanta in one. -/
def unit : Nat := 2 ^ 1074

/-- The number of quanta in `2 ^ 1024`, which every magnitude stays below. -/
def ceiling : Nat := 2 ^ 2098

/-- The exponents of the unit and the ceiling, left open lest the powers are computed. -/
theorem exists_exponents : ∃ k, k = 1074 ∧ unit = 2 ^ k ∧ ceiling = 2 ^ (k + 1024) := by
  have hopen : ∀ k, k = 1074 → unit = 2 ^ k ∧ ceiling = 2 ^ (k + 1024) := by
    intro k hk
    have hsum : k + 1024 = 2098 := by omega
    rw [hsum, hk, unit, ceiling]
    exact ⟨rfl, rfl⟩
  exact ⟨1074, rfl, hopen 1074 rfl⟩

theorem unit_pos : 0 < unit := by
  obtain ⟨k, -, hunit, -⟩ := exists_exponents
  rw [hunit]
  exact Nat.two_pow_pos k

theorem ceiling_pos : 0 < ceiling := by
  obtain ⟨k, -, -, hceiling⟩ := exists_exponents
  rw [hceiling]
  exact Nat.two_pow_pos _

attribute [irreducible] unit ceiling

/-- A count of quanta is a binary64 number when it has at most 53 significant bits and stands for
less than `2 ^ 1024`. -/
def Representable (quanta : Nat) : Prop :=
  quanta < ceiling ∧ Rounding.spacing quanta ∣ quanta

instance (quanta : Nat) : Decidable (Representable quanta) :=
  inferInstanceAs (Decidable (_ ∧ _))

theorem representable_zero : Representable 0 := ⟨ceiling_pos, Nat.dvd_zero _⟩

/-- A non-negative finite binary64 number, other than the negative zero. -/
structure Magnitude where
  /-- How many times `2⁻¹⁰⁷⁴` the number holds. -/
  quanta : Nat
  /-- The count has a binary64 form. -/
  representable : Representable quanta
  deriving DecidableEq

namespace Magnitude

/-- The magnitude zero. -/
def zero : Magnitude := ⟨0, representable_zero⟩

instance : Inhabited Magnitude := ⟨zero⟩

/-- The magnitude nearest to `num / den` quanta. -/
def nearestQuanta? (num den : Nat) : Option Magnitude :=
  if h : Rounding.nearestSpaced num den < ceiling then
    some ⟨Rounding.nearestSpaced num den, h, Rounding.spacing_dvd_nearestSpaced num den⟩
  else
    none

/-- The magnitude nearest to `num / den`. -/
def nearest? (num den : Nat) : Option Magnitude :=
  nearestQuanta? (num * unit) den

/-- The magnitude nearest to a natural number. -/
def ofNat? (n : Nat) : Option Magnitude := nearest? n 1

/-- The magnitude nearest to a product. -/
def mul? (x y : Magnitude) : Option Magnitude := nearestQuanta? (x.quanta * y.quanta) unit

/-- The magnitude nearest to a quotient by a magnitude that is not zero. -/
def div? (x y : Magnitude) : Option Magnitude := nearestQuanta? (x.quanta * unit) y.quanta

/-- The integer part as a natural number. -/
def toNat (x : Magnitude) : Nat := x.quanta / unit

theorem unit_eq_two_pow : unit = 2 ^ 1074 := by
  rw [unit]

theorem representable_floor {quanta : Nat} (h : Representable quanta) :
    Representable (quanta / unit * unit) := by
  have hle : quanta / unit * unit ≤ quanta := Nat.div_mul_le_self _ _
  refine ⟨Nat.lt_of_le_of_lt hle h.1, ?_⟩
  by_cases hs : quanta.log2 - 52 ≤ 1074
  · have hlog : (quanta / unit * unit).log2 ≤ quanta.log2 := by
      by_cases hz : quanta / unit * unit = 0
      · simp [hz]
      · have hq : quanta ≠ 0 := by omega
        exact (Nat.le_log2 hq).2 (Nat.le_trans (Nat.log2_self_le hz) hle)
    have hexp : (quanta / unit * unit).log2 - 52 ≤ 1074 := by omega
    have hpow := Rounding.spacing_dvd_two_pow hexp
    rw [← unit_eq_two_pow] at hpow
    exact Nat.dvd_trans hpow (Nat.dvd_mul_left unit (quanta / unit))
  · have hd : unit ∣ quanta := by
      refine Nat.dvd_trans ?_ h.2
      have hexp : 1074 ≤ quanta.log2 - 52 := by omega
      have hpow := Rounding.two_pow_dvd_spacing hexp
      rwa [← unit_eq_two_pow] at hpow
    rw [Nat.div_mul_cancel hd]
    exact h.2

/-- The integer part as a magnitude. -/
def floor (x : Magnitude) : Magnitude :=
  ⟨x.toNat * unit, representable_floor x.representable⟩

end Magnitude

end Audience
