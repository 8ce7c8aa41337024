import Audience.Proofs.Numeric.Finite

/-!
# Numbers without a sign

Sums, products and remainders of numbers without a sign have none, and neither have their integer
parts in 64 bits. NaN counts as one of them, since its integer part is zero.

* **`Binary64.Unsigned`**: numbers without a sign. **`Binary64.Unsigned.add`** and the like: what keeps
  to them.
* **`Binary64.Unsigned.toWord_nonneg`**: their integer parts.
* **`Binary64.zero_add_zero`**, **`Binary64.zero_mul`** and the like: what zeros give.
-/

namespace Audience

theorem Magnitude.floor_le (size : Magnitude) : size.floor.quanta ≤ size.quanta :=
  Nat.div_mul_le_self _ _

namespace Binary64

variable {x y : Binary64}

/-- The number is NaN or has no sign. -/
def Unsigned : Binary64 → Prop
  | nan => True
  | infinite negative | finite negative _ => negative = false

theorem unsigned_ofMagnitude (size : Magnitude) : (ofMagnitude size).Unsigned := rfl

theorem unsigned_ofSize (size : Option Magnitude) : (ofSize false size).Unsigned := by
  cases size <;> rfl

theorem unsigned_ofNat (n : Nat) : (ofNat n).Unsigned := unsigned_ofSize _

theorem largestWord_nonneg : 0 ≤ largestWord := by
  unfold largestWord
  omega

theorem clampWord_nonneg {n : Int} (h : 0 ≤ n) : 0 ≤ clampWord n :=
  Int.le_trans (Int.le_min.2 ⟨largestWord_nonneg, h⟩) (Int.le_max_right _ _)

namespace Unsigned

theorem add (hx : x.Unsigned) (hy : y.Unsigned) : (x + y).Unsigned := by
  show (Binary64.add x y).Unsigned
  cases x with
  | nan => trivial
  | infinite s =>
    cases hx
    cases y with
    | nan => trivial
    | infinite t =>
      cases hy
      rfl
    | finite t b => rfl
  | finite s a =>
    cases hx
    cases y with
    | nan => trivial
    | infinite t => exact hy
    | finite t b =>
      cases hy
      have hsum : ¬ signedQuanta false a + signedQuanta false b < 0 := by
        show ¬ (a.quanta : Int) + (b.quanta : Int) < 0
        omega
      rw [Binary64.add, decide_eq_false hsum, Bool.and_false, ite_self]
      exact unsigned_ofSize _

theorem mul (hx : x.Unsigned) (hy : y.Unsigned) : (x * y).Unsigned := by
  show (Binary64.mul x y).Unsigned
  cases x with
  | nan => trivial
  | infinite s =>
    cases hx
    cases y with
    | nan => trivial
    | infinite t =>
      cases hy
      rfl
    | finite t b =>
      cases hy
      rw [Binary64.mul]
      split
      · trivial
      · rfl
  | finite s a =>
    cases hx
    cases y with
    | nan => trivial
    | infinite t =>
      cases hy
      rw [Binary64.mul]
      split
      · trivial
      · rfl
    | finite t b =>
      cases hy
      exact unsigned_ofSize _

theorem not_difference_neg {a b : Magnitude} (h : b.quanta ≤ a.quanta) :
    ¬ signedQuanta false a + signedQuanta true b < 0 := by
  show ¬ (a.quanta : Int) + -(b.quanta : Int) < 0
  omega

/-- What a number has beyond its integer part. -/
theorem sub_trunc (hx : x.Unsigned) : (x - x.trunc).Unsigned := by
  show (Binary64.add x (neg x.trunc)).Unsigned
  cases x with
  | nan => trivial
  | infinite s => cases s <;> trivial
  | finite s a =>
    cases hx
    have hsum := not_difference_neg (Magnitude.floor_le a)
    rw [trunc, neg, Binary64.add, Bool.not_false, decide_eq_false hsum, Bool.false_and, ite_self]
    exact unsigned_ofSize _

theorem toWord_nonneg (hx : x.Unsigned) : 0 ≤ x.toWord := by
  cases x with
  | nan => exact Int.le_refl 0
  | infinite s =>
    cases hx
    rw [toWord, if_neg Bool.false_ne_true]
    exact largestWord_nonneg
  | finite s a =>
    cases hx
    rw [toWord, if_neg Bool.false_ne_true]
    exact clampWord_nonneg (Int.natCast_nonneg _)

theorem trunc (hx : x.Unsigned) : x.trunc.Unsigned := by
  cases x with
  | nan => trivial
  | infinite s => exact hx
  | finite s a => exact hx

end Unsigned

/-! ### Zero -/

theorem nearestQuanta?_zero (den : Nat) : Magnitude.nearestQuanta? 0 den = some .zero := by
  have hnearest : ∀ d, Rounding.nearest 0 d = 0 := by
    intro d
    simp only [Rounding.nearest, Nat.zero_div, Nat.zero_mod]
    split
    · rfl
    · split
      · omega
      · rfl
  have hspaced : Rounding.nearestSpaced 0 den = 0 := by
    rw [Rounding.nearestSpaced, hnearest, Nat.zero_mul]
  rw [Magnitude.nearestQuanta?, dif_pos (by rw [hspaced]; exact ceiling_pos)]
  congr 1
  simp only [Magnitude.zero, hspaced]

theorem trunc_zero : zero.trunc = zero := by
  show finite false Magnitude.zero.floor = finite false .zero
  congr 1
  simp [Magnitude.floor, Magnitude.toNat, Magnitude.zero]

theorem zero_add_zero : zero + zero = zero := by
  show ofSize false (Magnitude.nearestQuanta? 0 1) = zero
  rw [nearestQuanta?_zero]
  rfl

theorem zero_sub_zero : zero - zero = zero := by
  show ofSize false (Magnitude.nearestQuanta? 0 1) = zero
  rw [nearestQuanta?_zero]
  rfl

theorem zero_mul (hsign : x.Unsigned) (hfinite : x.isFinite) : zero * x = zero := by
  cases x with
  | nan | infinite => cases hfinite
  | finite s a =>
    cases hsign
    show ofSize false (Magnitude.nearestQuanta? (0 * a.quanta) unit) = zero
    rw [Nat.zero_mul, nearestQuanta?_zero]
    rfl

theorem isFinite_ofNat {n : Nat} (h : n ≤ 2 ^ 64) : (ofNat n).isFinite = true := by
  have heq : ofNat n = ofInt n := by
    rw [ofInt, decide_eq_false (by omega : ¬ (n : Int) < 0)]
    rfl
  rw [heq]
  exact isFinite_ofInt (by omega)

end Binary64

end Audience
