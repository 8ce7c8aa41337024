import Audience.Numeric.Decimal

/-!
# The decimal written for a magnitude reads back

* **`Rounding.nearestSpaced_mul`**: a number with at most 53 significant bits is left alone.
* **`Magnitude.nearest?_expansion`**: the whole expansion of a magnitude is exact.
* **`Magnitude.shortest_reads_back`**: the decimal written for a magnitude is nearest to it and to no
  other.
-/

namespace Audience

namespace Rounding

theorem nearest_mul {n den : Nat} (hden : 0 < den) : nearest (n * den) den = n := by
  have hdiv : n * den / den = n := Nat.mul_div_cancel n hden
  have hmod : n * den % den = 0 := Nat.mul_mod_left n den
  unfold nearest
  rw [hdiv, hmod]
  exact if_pos (by omega)

theorem nearestSpaced_mul {n den : Nat} (hden : 0 < den) (hn : spacing n ∣ n) :
    nearestSpaced (n * den) den = n := by
  have hdiv : n * den / den = n := Nat.mul_div_cancel n hden
  have hsplit : n * den = n / spacing n * (den * spacing n) := by
    rw [Nat.mul_comm den, ← Nat.mul_assoc, Nat.div_mul_cancel hn]
  unfold nearestSpaced
  rw [hdiv, hsplit, nearest_mul (Nat.mul_pos hden (spacing_pos n)), Nat.div_mul_cancel hn]

end Rounding

namespace Decimal

theorem nearest?_ofNat {digits zeros : Nat} :
    nearest? ⟨digits, zeros⟩ = Magnitude.nearest? (digits * 10 ^ zeros) 1 :=
  if_pos (Int.natCast_nonneg zeros)

theorem nearest?_neg {digits places : Nat} (hplaces : 0 < places) :
    nearest? ⟨digits, -(places : Int)⟩ = Magnitude.nearest? digits (10 ^ places) := by
  have hnat : (- -(places : Int)).toNat = places := by omega
  unfold nearest?
  rw [if_neg (by show ¬ 0 ≤ -(places : Int); omega)]
  show Magnitude.nearest? digits (10 ^ (- -(places : Int)).toNat) = _
  rw [hnat]

/-- Of the two powers one is always one. -/
theorem nearest?_eq (x : Decimal) : x.nearest? =
    Magnitude.nearestQuanta? (x.digits * 10 ^ x.exponent.toNat * unit) (10 ^ (-x.exponent).toNat) := by
  rw [nearest?]
  split
  · rename_i h
    rw [show (-x.exponent).toNat = 0 by omega, Nat.pow_zero, Magnitude.nearest?]
  · rename_i h
    rw [show x.exponent.toNat = 0 by omega, Nat.pow_zero, Nat.mul_one, Magnitude.nearest?]

end Decimal

namespace Magnitude

variable {size : Magnitude} {point : Decimal} {exponent : Int}

theorem nearestQuanta?_mul {den : Nat} (hden : 0 < den) :
    nearestQuanta? (size.quanta * den) den = some size := by
  obtain ⟨quanta, hlt, hspaced⟩ := size
  have hround := Rounding.nearestSpaced_mul hden hspaced
  unfold nearestQuanta?
  rw [dif_pos (by rw [hround]; exact hlt)]
  simp only [hround]

theorem nearest?_expansion : size.expansion.nearest? = some size := by
  -- for any exponent, lest the powers are computed
  have hexact : ∀ k : Nat, 0 < k → unit = 2 ^ k →
      Decimal.nearest? ⟨size.quanta * 5 ^ k, -(k : Int)⟩ = some size := by
    intro k hk hunit
    rw [Decimal.nearest?_neg hk, nearest?, hunit, Nat.mul_assoc, ← Nat.mul_pow]
    exact nearestQuanta?_mul (Nat.pow_pos (by decide))
  exact hexact 1074 (by decide) unit_eq_two_pow

theorem gridPoint?_reads_back (h : size.gridPoint? exponent = some point) :
    point.nearest? = some size := by
  have htried : ∀ first second : Decimal,
      (if first.nearest? = some size then some first
        else if second.nearest? = some size then some second
        else none) = some point → point.nearest? = some size := by
    intro first second hfound
    split at hfound
    · cases hfound
      assumption
    · split at hfound
      · cases hfound
        assumption
      · cases hfound
  rw [gridPoint?] at h
  generalize size.inPowersOfTen exponent = quotient at h
  -- the nearer point is tried first, and what is found was tried
  by_cases hlower : 2 * (quotient.1 % quotient.2) < quotient.2
  · simp only [hlower, if_true] at h
    exact htried _ _ h
  · simp only [hlower, if_false] at h
    exact htried _ _ h

theorem searchGrids_reads_back {grids : Nat} (h : size.searchGrids exponent grids = some point) :
    point.nearest? = some size := by
  induction grids generalizing exponent with
  | zero => cases h
  | succ grids ih =>
    rw [searchGrids] at h
    cases hpoint : size.gridPoint? exponent with
    | none =>
      rw [hpoint] at h
      exact ih h
    | some found =>
      rw [hpoint] at h
      cases h
      exact gridPoint?_reads_back hpoint

/-- The decimal written for a magnitude reads back as the magnitude. -/
theorem shortest_reads_back (size : Magnitude) : size.shortest.nearest? = some size := by
  rw [shortest]
  split
  · rename_i hzero
    have hround : nearestQuanta? (size.quanta * 1) 1 = some size := nearestQuanta?_mul Nat.one_pos
    rw [hzero, Nat.zero_mul] at hround
    show nearest? (0 * 10 ^ 0) 1 = some size
    rw [nearest?, Nat.zero_mul]
    exact hround
  · cases hsearch : size.searchGrids size.coarsestExponent 20 with
    | none => exact nearest?_expansion
    | some point => exact searchGrids_reads_back hsearch

end Magnitude

end Audience
