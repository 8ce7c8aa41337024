import Audience.Proofs.Numeric.Whole

/-!
# Integers as binary64 numbers

* **`Binary64.roundedInt`**: the whole number that stands for an integer. It keeps the order and the
  sign, and is the integer itself up to `2 ^ 53`.
* **`Binary64.order?_ofInt`**: integers of 64 bits are ordered as numbers like they are as integers,
  unless they are the same number.
* **`Binary64.large_of_ofInt_eq`**: different integers that are the same number are large.
-/

namespace Audience.Binary64

open Rounding

variable {n k : Int}

/-! ### Whole numbers for integers -/

/-- The whole number nearest to an integer that binary64 has. -/
def roundedInt (n : Int) : Int := if n < 0 then -(rounded n.natAbs : Int) else rounded n.natAbs

theorem roundedInt_of_small (h : n.natAbs ≤ 2 ^ 53) : roundedInt n = n := by
  rw [roundedInt, rounded_of_le h]
  split <;> omega

theorem roundedInt_mono (h : n ≤ k) : roundedInt n ≤ roundedInt k := by
  unfold roundedInt
  split
  · rename_i hn
    split
    · have hmono := rounded_mono (show k.natAbs ≤ n.natAbs by omega)
      omega
    · omega
  · rw [if_neg (by omega)]
    have hmono := rounded_mono (show n.natAbs ≤ k.natAbs by omega)
    omega

/-- Rounding does not make zero of another integer. -/
theorem roundedInt_neg_iff : roundedInt n < 0 ↔ n < 0 := by
  constructor
  · intro h
    refine Int.not_le.1 fun hn => ?_
    have hmono := roundedInt_mono hn
    rw [roundedInt_of_small (n := 0) (by decide)] at hmono
    omega
  · intro h
    have hmono := roundedInt_mono (show n ≤ -1 by omega)
    rw [roundedInt_of_small (n := -1) (by decide)] at hmono
    omega

/-- Rounding keeps small integers apart from all others. -/
theorem eq_of_roundedInt_eq (hn : n.natAbs < 2 ^ 53) (h : roundedInt n = roundedInt k) : n = k := by
  have hself := roundedInt_of_small (n := n) (by omega)
  obtain hlt | heq | hgt := Int.lt_trichotomy n k
  · have hmono := roundedInt_mono (show n + 1 ≤ k by omega)
    rw [roundedInt_of_small (n := n + 1) (by omega)] at hmono
    omega
  · exact heq
  · have hmono := roundedInt_mono (show k ≤ n - 1 by omega)
    rw [roundedInt_of_small (n := n - 1) (by omega)] at hmono
    omega

/-! ### The numbers of integers -/

/-- The number nearest to an integer of 64 bits. -/
theorem exists_ofInt (h : n.natAbs ≤ 2 ^ 64) : ∃ size : Magnitude,
    ofInt n = .finite (decide (n < 0)) size ∧ size.quanta = rounded n.natAbs * unit := by
  have hfinite := isFinite_ofInt h
  rw [ofInt, ofRatio, Magnitude.nearest?, Magnitude.nearestQuanta?] at hfinite ⊢
  split at hfinite
  · rename_i hlt
    rw [dif_pos hlt]
    exact ⟨_, rfl, (rounded_mul_unit _).symm⟩
  · cases hfinite

theorem signedValue_ofInt (h : n.natAbs ≤ 2 ^ 64) :
    (ofInt n).signedValue = roundedInt n * unit := by
  obtain ⟨size, hsize, hquanta⟩ := exists_ofInt h
  rw [hsize, roundedInt]
  show signedQuanta (decide (n < 0)) size = _
  rw [signedQuanta, hquanta]
  by_cases hn : n < 0
  · rw [decide_eq_true hn, if_pos rfl, if_pos hn, Int.neg_mul, Int.natCast_mul]
  · rw [decide_eq_false hn, if_neg Bool.false_ne_true, if_neg hn, Int.natCast_mul]

theorem ofInt_eq_iff (hn : n.natAbs ≤ 2 ^ 64) (hk : k.natAbs ≤ 2 ^ 64) :
    ofInt n = ofInt k ↔ roundedInt n = roundedInt k := by
  constructor
  · intro h
    have hvalues := congrArg signedValue h
    rw [signedValue_ofInt hn, signedValue_ofInt hk] at hvalues
    exact Int.eq_of_mul_eq_mul_right (Int.natCast_ne_zero.2 (Nat.ne_of_gt unit_pos)) hvalues
  · intro h
    obtain ⟨size, hsize, hquanta⟩ := exists_ofInt hn
    obtain ⟨size', hsize', hquanta'⟩ := exists_ofInt hk
    have hsign : n < 0 ↔ k < 0 := by rw [← roundedInt_neg_iff, h, roundedInt_neg_iff]
    have hrounded : rounded n.natAbs = rounded k.natAbs := by
      unfold roundedInt at h
      split at h <;> split at h <;> omega
    have hsame : size = size' := Magnitude.ext_quanta (by rw [hquanta, hquanta', hrounded])
    rw [hsize, hsize', hsame]
    congr 1
    exact decide_eq_decide.2 hsign

/-- As numbers, integers of 64 bits are ordered like they are as integers, unless they are the same
number. -/
theorem order?_ofInt (hn : n.natAbs ≤ 2 ^ 64) (hk : k.natAbs ≤ 2 ^ 64) :
    (ofInt n).order? (ofInt k) =
      some (if ofInt n = ofInt k then .eq else compare n k) := by
  have hnumbers : (ofInt n).order? (ofInt k) =
      some (compare (roundedInt n * unit) (roundedInt k * unit)) := by
    rw [order?_eq_some_iff, signedValue_ofInt hn, signedValue_ofInt hk]
    exact ⟨⟨isNaN_of_isFinite (isFinite_ofInt hn), isNaN_of_isFinite (isFinite_ofInt hk)⟩, rfl⟩
  have hunit : (0 : Int) < unit := Int.natCast_pos.2 unit_pos
  rw [hnumbers]
  congr 1
  split
  · rename_i hsame
    rw [(ofInt_eq_iff hn hk).1 hsame]
    exact Int.compare_eq_eq.2 rfl
  · rename_i hother
    rw [ofInt_eq_iff hn hk] at hother
    obtain hlt | heq | hgt := Int.lt_trichotomy n k
    · have hmono := roundedInt_mono (Int.le_of_lt hlt)
      have hrounded := Int.lt_iff_le_and_ne.2 ⟨hmono, hother⟩
      have hscaled := Int.mul_lt_mul_of_pos_right hrounded hunit
      rw [Int.compare_eq_lt.2 hscaled, Int.compare_eq_lt.2 hlt]
    · exact absurd (congrArg roundedInt heq) hother
    · have hmono := roundedInt_mono (Int.le_of_lt hgt)
      have hrounded := Int.lt_iff_le_and_ne.2 ⟨hmono, Ne.symm hother⟩
      have hscaled := Int.mul_lt_mul_of_pos_right hrounded hunit
      rw [Int.compare_eq_gt.2 hscaled, Int.compare_eq_gt.2 hgt]

/-- Different integers that are the same number are large, and on one side of zero. -/
theorem large_of_ofInt_eq (hn : n.natAbs ≤ 2 ^ 64) (hk : k.natAbs ≤ 2 ^ 64)
    (h : ofInt n = ofInt k) (hne : n ≠ k) :
    2 ^ 53 ≤ n.natAbs ∧ 2 ^ 53 ≤ k.natAbs ∧ (n < 0 ↔ k < 0) := by
  rw [ofInt_eq_iff hn hk] at h
  refine ⟨Nat.le_of_not_lt fun hlt => hne (eq_of_roundedInt_eq hlt h),
    Nat.le_of_not_lt fun hlt => hne (eq_of_roundedInt_eq hlt h.symm).symm, ?_⟩
  rw [← roundedInt_neg_iff, h, roundedInt_neg_iff]

end Audience.Binary64
