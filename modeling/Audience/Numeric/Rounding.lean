/-!
# Rounding to nearest

Exact rounding of quotients of natural numbers.

* **`nearest num den`** is the whole number nearest to `num / den`; a half goes to the even
  neighbour.
* **`nearestSpaced num den`** is the number with at most 53 significant bits nearest to
  `num / den`, so its result is always a multiple of the spacing of its own size
  (`spacing_dvd_nearestSpaced`).
-/

-- Powers are those of the core library, also where an algebraic library that brings its own
-- `x ^ n` is imported beside these modules.
attribute [instance (10000), default_instance 10000] instPowNat

namespace Audience.Rounding

/-- The whole number nearest to `num / den`, a half going to the even neighbour. -/
def nearest (num den : Nat) : Nat :=
  let floor := num / den
  let rest := num % den
  if 2 * rest < den then floor
  else if den < 2 * rest then floor + 1
  else floor + floor % 2

theorem nearest_le (num den : Nat) : nearest num den ≤ num / den + 1 := by
  simp only [nearest]
  split
  · omega
  · split <;> omega

theorem le_nearest (num den : Nat) : num / den ≤ nearest num den := by
  simp only [nearest]
  split
  · omega
  · split <;> omega

/-- Whole numbers with 53 significant bits and the size of `n` are this far apart. -/
def spacing (n : Nat) : Nat := 2 ^ (n.log2 - 52)

theorem spacing_pos (n : Nat) : 0 < spacing n := Nat.two_pow_pos _

theorem spacing_dvd_two_pow {n k : Nat} (h : n.log2 - 52 ≤ k) : spacing n ∣ 2 ^ k :=
  Nat.pow_dvd_pow 2 h

theorem two_pow_dvd_spacing {n k : Nat} (h : k ≤ n.log2 - 52) : 2 ^ k ∣ spacing n :=
  Nat.pow_dvd_pow 2 h

/-- The number with at most 53 significant bits nearest to `num / den`. -/
def nearestSpaced (num den : Nat) : Nat :=
  nearest num (den * spacing (num / den)) * spacing (num / den)

/-- At most `2 ^ 53` steps of size `2 ^ s` make a multiple of the spacing of their sum. -/
theorem spacing_dvd_mul {k s : Nat} (h : k ≤ 2 ^ 53) : spacing (k * 2 ^ s) ∣ k * 2 ^ s := by
  unfold spacing
  by_cases hk : k < 2 ^ 53
  · apply Nat.dvd_trans _ (Nat.dvd_mul_left _ _)
    apply Nat.pow_dvd_pow
    by_cases hz : k * 2 ^ s = 0
    · rw [hz]
      simp
    · have hlt : k * 2 ^ s < 2 ^ (53 + s) := by
        rw [Nat.pow_add]
        exact Nat.mul_lt_mul_of_pos_right hk (Nat.two_pow_pos s)
      have := (Nat.log2_lt hz).2 hlt
      omega
  · have hk : k = 2 ^ 53 := by omega
    subst hk
    rw [← Nat.pow_add, Nat.log2_two_pow]
    exact Nat.pow_dvd_pow 2 (by omega)

theorem spacing_dvd_nearestSpaced (num den : Nat) :
    spacing (nearestSpaced num den) ∣ nearestSpaced num den := by
  apply spacing_dvd_mul
  have hle := nearest_le num (den * spacing (num / den))
  have hq : num / (den * spacing (num / den)) < 2 ^ 53 := by
    rw [← Nat.div_div_eq_div_mul, Nat.div_lt_iff_lt_mul (spacing_pos _)]
    unfold spacing
    rw [← Nat.pow_add]
    exact Nat.lt_of_lt_of_le Nat.lt_log2_self (Nat.pow_le_pow_right (by omega) (by omega))
  omega

end Audience.Rounding
