import Audience.Json.Number
import Audience.Proofs.Numeric.Order

/-!
# The numbers of documents are finite

* **`Rounding.nearestSpaced_le`**: rounding to 53 significant bits at most doubles a whole number.
* **`Binary64.isFinite_ofInt`**: an integer of 64 bits is far from the largest number.
* **`Json.Number.isFinite_toBinary64`**: the number of a document is finite.
-/

namespace Audience

namespace Rounding

theorem spacing_le {n : Nat} (hn : n ≠ 0) : spacing n ≤ n := by
  have hpow : 2 ^ (n.log2 - 52) ≤ 2 ^ n.log2 := Nat.pow_le_pow_right (by omega) (by omega)
  exact Nat.le_trans hpow (Nat.log2_self_le hn)

theorem nearestSpaced_le (n : Nat) : nearestSpaced n 1 ≤ 2 * n := by
  rw [nearestSpaced]
  rw [Nat.div_one, Nat.one_mul]
  by_cases hn : n = 0
  · rw [hn]
    decide
  · have hnearest := nearest_le n (spacing n)
    have hspacing := spacing_le hn
    have hfloor : n / spacing n * spacing n ≤ n := Nat.div_mul_le_self _ _
    calc nearest n (spacing n) * spacing n
        ≤ (n / spacing n + 1) * spacing n := Nat.mul_le_mul_right _ hnearest
      _ = n / spacing n * spacing n + spacing n := Nat.succ_mul _ _
      _ ≤ 2 * n := by omega

end Rounding

namespace Binary64

theorem isFinite_ofMagnitude (size : Magnitude) : (ofMagnitude size).isFinite = true := rfl

theorem zero_atMost_ofMagnitude (size : Magnitude) : zero.atMost (ofMagnitude size) = true :=
  atMost_iff.2 ⟨⟨rfl, rfl⟩, Int.natCast_nonneg size.quanta⟩

theorem isFinite_ofInt {n : Int} (h : n.natAbs ≤ 2 ^ 64) : (ofInt n).isFinite = true := by
  have hround : Rounding.nearestSpaced (n.natAbs * unit) 1 < ceiling := by
    have hle := Rounding.nearestSpaced_le (n.natAbs * unit)
    have hmul : n.natAbs * unit ≤ 2 ^ 64 * unit := Nat.mul_le_mul_right _ h
    have hlt : 2 * (2 ^ 64 * unit) < ceiling := by
      obtain ⟨k, _, hunit, hceiling⟩ := exists_exponents
      have hpow : 2 * (2 ^ 64 * 2 ^ k) = 2 ^ (k + 65) := by
        rw [Nat.pow_add]
        omega
      rw [hunit, hceiling, hpow]
      exact Nat.pow_lt_pow_right (by decide) (by omega)
    omega
  rw [ofInt, ofRatio, Magnitude.nearest?, Magnitude.nearestQuanta?]
  rw [dif_pos hround]
  rfl

end Binary64

namespace Json.Number

theorem isFinite_toBinary64 (value : Number) : value.toBinary64.isFinite = true := by
  cases value with
  | integer value fits => exact Binary64.isFinite_ofInt (by omega)
  | real negative size => rfl

end Json.Number

end Audience
