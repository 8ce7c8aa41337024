import Audience.Proofs.Numeric.Nearest
import Audience.Proofs.Numeric.Sign

/-!
# Whole numbers in binary64

Sums and products of whole numbers are whole, exact up to `2 ^ 53` and rounded past it, and leave
nothing beyond their integer parts.

* **`Magnitude.fraction`**: what a magnitude has beyond its integer part, which no rounding changes.
* **`Binary64.IsNat`**: which numbers are a natural number. **`Binary64.IsNat.add`**,
  **`Binary64.IsNat.mul`**: sums and products, as long as they are finite.
* **`Binary64.IsNat.isFinite_add_iff`**, **`Binary64.IsNat.isFinite_mul_iff`**: when they are finite.
* **`Binary64.IsNat.sub_trunc`**, **`Binary64.IsNat.toWord_trunc`**: nothing is left beyond their
  integer parts, and those parts in 64 bits.
-/

namespace Audience

/-! ### Fractions -/

namespace Magnitude

theorem representable_fraction {quanta : Nat} (h : Representable quanta) :
    Representable (quanta % unit) := by
  have hle := Nat.mod_le quanta unit
  refine ⟨Nat.lt_of_le_of_lt hle h.1, ?_⟩
  obtain ⟨k, _, hunit, _⟩ := exists_exponents
  by_cases hzero : quanta % unit = 0
  · rw [hzero]
    exact Nat.dvd_zero _
  · have hquanta : quanta ≠ 0 := by
      intro h
      rw [h, Nat.zero_mod] at hzero
      exact hzero rfl
    have hlog : (quanta % unit).log2 ≤ quanta.log2 :=
      (Nat.le_log2 hquanta).2 (Nat.le_trans (Nat.log2_self_le hzero) hle)
    have hspacing : Rounding.spacing (quanta % unit) ∣ Rounding.spacing quanta :=
      Rounding.spacing_dvd_two_pow (by omega)
    -- a spacing past the unit leaves no fraction
    have hspacingUnit : Rounding.spacing quanta ∣ unit := by
      by_cases hsmall : quanta.log2 - 52 ≤ k
      · rw [hunit]
        exact Rounding.spacing_dvd_two_pow hsmall
      · have hdvd : unit ∣ quanta := by
          refine Nat.dvd_trans ?_ h.2
          rw [hunit]
          exact Rounding.two_pow_dvd_spacing (by omega)
        exact absurd (Nat.mod_eq_zero_of_dvd hdvd) hzero
    exact Nat.dvd_trans hspacing ((Nat.dvd_mod_iff hspacingUnit).2 h.2)

/-- What a magnitude has beyond its integer part. -/
def fraction (size : Magnitude) : Magnitude :=
  ⟨size.quanta % unit, representable_fraction size.representable⟩

/-- The magnitude is a whole number. -/
def IsWhole (size : Magnitude) : Prop := unit ∣ size.quanta

instance (size : Magnitude) : Decidable size.IsWhole := inferInstanceAs (Decidable (_ ∣ _))

variable {size : Magnitude}

theorem IsWhole.quanta_eq (h : size.IsWhole) : size.quanta = size.toNat * unit :=
  (Nat.div_mul_cancel h).symm

theorem IsWhole.fraction_eq (h : size.IsWhole) : size.fraction = .zero :=
  ext_quanta (Nat.mod_eq_zero_of_dvd h)

end Magnitude

namespace Binary64

variable {x y : Binary64} {size : Magnitude} {n k : Nat}

/-! ### Operations on magnitudes -/

theorem ofMagnitude_add (a b : Magnitude) : ofMagnitude a + ofMagnitude b =
    ofSize false (Magnitude.nearestQuanta? (a.quanta + b.quanta) 1) := by
  have hsum : ¬ signedQuanta false a + signedQuanta false b < 0 := by
    show ¬ (a.quanta : Int) + (b.quanta : Int) < 0
    omega
  show Binary64.add (finite false a) (finite false b) = _
  rw [Binary64.add, decide_eq_false hsum, Bool.and_false, ite_self]
  rfl

theorem ofMagnitude_mul (a b : Magnitude) : ofMagnitude a * ofMagnitude b =
    ofSize false (Magnitude.nearestQuanta? (a.quanta * b.quanta) unit) := rfl

theorem nearestQuanta?_quanta (size : Magnitude) :
    Magnitude.nearestQuanta? size.quanta 1 = some size := by
  have hexact : Magnitude.nearestQuanta? (size.quanta * 1) 1 = some size :=
    Magnitude.nearestQuanta?_mul Nat.one_pos
  rwa [Nat.mul_one] at hexact

theorem ofMagnitude_add_zero (size : Magnitude) : ofMagnitude size + zero = ofMagnitude size := by
  have hzero : zero = ofMagnitude .zero := rfl
  have hquanta : Magnitude.zero.quanta = 0 := rfl
  rw [hzero, ofMagnitude_add, hquanta, Nat.add_zero, nearestQuanta?_quanta]
  rfl

/-- The integer part is taken off without rounding. -/
theorem ofMagnitude_sub_trunc (size : Magnitude) :
    ofMagnitude size - (ofMagnitude size).trunc = ofMagnitude size.fraction := by
  have hsplit : size.toNat * unit + size.quanta % unit = size.quanta := by
    rw [Nat.mul_comm]
    exact Nat.div_add_mod size.quanta unit
  have hfraction : size.fraction.quanta = size.quanta % unit := rfl
  have hfloor : size.floor.quanta = size.toNat * unit := rfl
  have hdifference : signedQuanta false size + signedQuanta true size.floor =
      (size.fraction.quanta : Int) := by
    rw [signedQuanta, signedQuanta, if_neg Bool.false_ne_true, if_pos rfl, hfloor, hfraction]
    omega
  have hsum : ¬ (size.fraction.quanta : Int) < 0 := by omega
  show Binary64.add (finite false size) (finite true size.floor) = _
  rw [Binary64.add, hdifference, decide_eq_false hsum, Bool.false_and, ite_self,
    Int.natAbs_natCast, nearestQuanta?_quanta]
  rfl

/-! ### Natural numbers -/

/-- The number is a natural number, without a sign. -/
def IsNat (x : Binary64) (n : Nat) : Prop := ∃ size, x = ofMagnitude size ∧ size.quanta = n * unit

theorem isNat_ofMagnitude (h : size.IsWhole) : (ofMagnitude size).IsNat size.toNat :=
  ⟨size, rfl, h.quanta_eq⟩

theorem isFinite_ofSize_iff : (ofSize false (Magnitude.nearestQuanta? (n * unit) 1)).isFinite = true ↔
    Rounding.rounded n * unit < ceiling := by
  rw [Rounding.rounded_mul_unit]
  unfold Magnitude.nearestQuanta?
  by_cases hlt : Rounding.nearestSpaced (n * unit) 1 < ceiling
  · rw [dif_pos hlt]
    exact iff_of_true rfl hlt
  · rw [dif_neg hlt]
    exact iff_of_false Bool.false_ne_true hlt

theorem isNat_ofSize (h : (ofSize false (Magnitude.nearestQuanta? (n * unit) 1)).isFinite = true) :
    (ofSize false (Magnitude.nearestQuanta? (n * unit) 1)).IsNat (Rounding.rounded n) := by
  have hlt := isFinite_ofSize_iff.1 h
  rw [Rounding.rounded_mul_unit] at hlt
  rw [Magnitude.nearestQuanta?, dif_pos hlt]
  exact ⟨_, rfl, (Rounding.rounded_mul_unit n).symm⟩

theorem isNat_ofNat (h : n ≤ 2 ^ 53) : (ofNat n).IsNat n := by
  have hfinite := isFinite_ofNat (Nat.le_trans h (by decide))
  have hrounded := isNat_ofSize hfinite
  rwa [Rounding.rounded_of_le h] at hrounded

theorem IsNat.signedValue_eq (h : x.IsNat n) : x.signedValue = n * unit := by
  obtain ⟨size, rfl, hquanta⟩ := h
  show (size.quanta : Int) = _
  rw [hquanta, Int.natCast_mul]

theorem isFinite_of_add (h : (x + y).isFinite = true) : x.isFinite = true ∧ y.isFinite = true := by
  have hadd : (Binary64.add x y).isFinite = true := h
  cases x with
  | nan => cases hadd
  | infinite s =>
    cases y with
    | nan => cases hadd
    | infinite t =>
      rw [Binary64.add] at hadd
      split at hadd <;> cases hadd
    | finite t b => cases hadd
  | finite s a =>
    cases y with
    | nan => cases hadd
    | infinite t => cases hadd
    | finite t b => exact ⟨rfl, rfl⟩

theorem rounded_mul_unit_lt (h : n ≤ 2 ^ 53) : Rounding.rounded n * unit < ceiling :=
  isFinite_ofSize_iff.1 (isFinite_ofNat (Nat.le_trans h (by decide)))

theorem clampWord_of_lt {n : Int} (hnonneg : 0 ≤ n) (hlt : n < 2 ^ 62) : clampWord n = n := by
  unfold clampWord leastWord largestWord
  omega

theorem clampWord_mono {n k : Int} (h : n ≤ k) : clampWord n ≤ clampWord k := by
  unfold clampWord
  omega

/-- The integer part of a magnitude in 64 bits. -/
theorem toWord_trunc_ofMagnitude (size : Magnitude) :
    (ofMagnitude size).trunc.toWord = clampWord size.toNat := by
  have hfloor : size.floor.toNat = size.toNat := Nat.mul_div_cancel size.toNat unit_pos
  show (finite false size.floor).toWord = _
  rw [toWord, if_neg Bool.false_ne_true, hfloor]

namespace IsNat

theorem isFinite (h : x.IsNat n) : x.isFinite = true := by
  obtain ⟨size, rfl, _⟩ := h
  rfl

theorem add_eq (hx : x.IsNat n) (hy : y.IsNat k) :
    x + y = ofSize false (Magnitude.nearestQuanta? ((n + k) * unit) 1) := by
  obtain ⟨a, rfl, ha⟩ := hx
  obtain ⟨b, rfl, hb⟩ := hy
  rw [ofMagnitude_add, ha, hb, Nat.add_mul]

theorem mul_eq (hx : x.IsNat n) (hy : y.IsNat k) :
    x * y = ofSize false (Magnitude.nearestQuanta? (n * k * unit) 1) := by
  obtain ⟨a, rfl, ha⟩ := hx
  obtain ⟨b, rfl, hb⟩ := hy
  have hquanta : n * unit * (k * unit) = n * k * unit * unit := by
    rw [Nat.mul_mul_mul_comm, ← Nat.mul_assoc]
  have hround : Rounding.nearestSpaced (n * k * unit * unit) unit =
      Rounding.nearestSpaced (n * k * unit) 1 := by
    have hscale : Rounding.nearestSpaced (n * k * unit * unit) (1 * unit) =
        Rounding.nearestSpaced (n * k * unit) 1 := Rounding.nearestSpaced_scale unit_pos
    rwa [Nat.one_mul] at hscale
  rw [ofMagnitude_mul, ha, hb, hquanta]
  simp only [Magnitude.nearestQuanta?, hround]

/-- The number nearest to a sum of natural numbers. -/
theorem add (hx : x.IsNat n) (hy : y.IsNat k) (h : (x + y).isFinite = true) :
    (x + y).IsNat (Rounding.rounded (n + k)) := by
  rw [add_eq hx hy] at h ⊢
  exact isNat_ofSize h

/-- The number nearest to a product of natural numbers. -/
theorem mul (hx : x.IsNat n) (hy : y.IsNat k) (h : (x * y).isFinite = true) :
    (x * y).IsNat (Rounding.rounded (n * k)) := by
  rw [mul_eq hx hy] at h ⊢
  exact isNat_ofSize h

theorem isFinite_add_iff (hx : x.IsNat n) (hy : y.IsNat k) :
    (x + y).isFinite = true ↔ Rounding.rounded (n + k) * unit < ceiling := by
  rw [add_eq hx hy, isFinite_ofSize_iff]

theorem isFinite_mul_iff (hx : x.IsNat n) (hy : y.IsNat k) :
    (x * y).isFinite = true ↔ Rounding.rounded (n * k) * unit < ceiling := by
  rw [mul_eq hx hy, isFinite_ofSize_iff]

theorem add_zero (h : x.IsNat n) : x + zero = x := by
  obtain ⟨size, rfl, _⟩ := h
  exact ofMagnitude_add_zero size

theorem sub_trunc (h : x.IsNat n) : x - x.trunc = zero := by
  obtain ⟨size, rfl, hsize⟩ := h
  have hwhole : size.IsWhole := ⟨n, by rw [hsize, Nat.mul_comm]⟩
  rw [ofMagnitude_sub_trunc, hwhole.fraction_eq]
  rfl

theorem toWord_trunc (h : x.IsNat n) : x.trunc.toWord = clampWord n := by
  obtain ⟨size, rfl, hsize⟩ := h
  have hnat : size.toNat = n := by
    rw [Magnitude.toNat, hsize]
    exact Nat.mul_div_cancel n unit_pos
  rw [toWord_trunc_ofMagnitude, hnat]

end IsNat

end Binary64

end Audience
