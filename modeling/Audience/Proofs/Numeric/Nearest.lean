import Audience.Proofs.Numeric.Shortest

/-!
# What rounding keeps

* **`Rounding.nearest_error`**, **`Rounding.nearestSpaced_error`**: a quotient and the number nearest
  to it differ by at most half the spacing.
* **`Rounding.le_nearestSpaced`**, **`Rounding.nearestSpaced_le_of_le`**: rounding does not cross a
  multiple of the spacing. **`Rounding.nearestSpaced_mono`**: it keeps the order.
* **`Rounding.nearestSpaced_scale`**: it depends on the quotient alone.
* **`Rounding.rounded`**: the number nearest to a whole number, which is whole itself.
-/

namespace Audience.Rounding

variable {num more den n k : Nat}

/-! ### Whole numbers -/

theorem nearest_error (hden : 0 < den) :
    2 * num ≤ 2 * (nearest num den * den) + den ∧ 2 * (nearest num den * den) ≤ 2 * num + den := by
  have hsplit : num / den * den + num % den = num := by
    rw [Nat.mul_comm]
    exact Nat.div_add_mod num den
  have hrest := Nat.mod_lt num hden
  have hnext : (num / den + 1) * den = num / den * den + den := Nat.succ_mul _ _
  simp only [nearest]
  split
  · omega
  · split
    · rw [hnext]
      omega
    · obtain heven | hodd : num / den % 2 = 0 ∨ num / den % 2 = 1 := by omega
      · rw [heven, Nat.add_zero]
        omega
      · rw [hodd, hnext]
        omega

theorem nearest_mono (h : num ≤ more) : nearest num den ≤ nearest more den := by
  have hfloors : num / den ≤ more / den := Nat.div_le_div_right h
  by_cases hfloor : num / den = more / den
  · have hrests : num % den ≤ more % den := by
      have hnum := Nat.div_add_mod num den
      have hmore := Nat.div_add_mod more den
      rw [hfloor] at hnum
      omega
    simp only [nearest, hfloor]
    split
    · split
      · exact Nat.le_refl _
      · split <;> omega
    · split <;> split <;> (try split) <;> omega
  · have hup := nearest_le num den
    have hdown := le_nearest more den
    omega

theorem nearest_scale (hk : 0 < k) : nearest (num * k) (den * k) = nearest num den := by
  have hrest : num * k % (den * k) = num % den * k := Nat.mul_mod_mul_right k num den
  have hbelow : 2 * (num % den * k) < den * k ↔ 2 * (num % den) < den := by
    rw [← Nat.mul_assoc]
    exact Nat.mul_lt_mul_right hk
  have habove : den * k < 2 * (num % den * k) ↔ den < 2 * (num % den) := by
    rw [← Nat.mul_assoc]
    exact Nat.mul_lt_mul_right hk
  simp only [nearest, Nat.mul_div_mul_right num den hk, hrest, hbelow, habove]

/-! ### Numbers with 53 significant bits -/

theorem spacing_dvd_two_pow_of_lt (h : n < 2 ^ k) : spacing n ∣ 2 ^ (k - 53) := by
  by_cases hn : n = 0
  · rw [hn]
    exact Nat.one_dvd _
  · have hlog := (Nat.log2_lt hn).2 h
    exact spacing_dvd_two_pow (by omega)

/-- A quotient and the number nearest to it differ by at most half the spacing. -/
theorem nearestSpaced_error (num : Nat) (hden : 0 < den) :
    2 * num ≤ 2 * (nearestSpaced num den * den) + den * spacing (num / den) ∧
      2 * (nearestSpaced num den * den) ≤ 2 * num + den * spacing (num / den) := by
  have hsteps : nearestSpaced num den * den =
      nearest num (den * spacing (num / den)) * (den * spacing (num / den)) := by
    rw [nearestSpaced, Nat.mul_assoc, Nat.mul_comm (spacing _)]
  rw [hsteps]
  exact nearest_error (Nat.mul_pos hden (spacing_pos _))

theorem le_nearestSpaced (hden : 0 < den) (h : n * den ≤ num) (hn : spacing (num / den) ∣ n) :
    n ≤ nearestSpaced num den := by
  obtain ⟨steps, hsteps⟩ := hn
  have hsize := Nat.mul_pos hden (spacing_pos (num / den))
  have hfront : steps * (den * spacing (num / den)) ≤ num := by
    refine Nat.le_trans (Nat.le_of_eq ?_) h
    rw [hsteps, Nat.mul_comm (spacing _), Nat.mul_assoc, Nat.mul_comm (spacing _)]
  have hfloor : steps ≤ nearest num (den * spacing (num / den)) :=
    Nat.le_trans ((Nat.le_div_iff_mul_le hsize).2 hfront) (le_nearest _ _)
  rw [hsteps, nearestSpaced, Nat.mul_comm]
  exact Nat.mul_le_mul_right _ hfloor

theorem nearestSpaced_le_of_le (hden : 0 < den) (h : num ≤ n * den)
    (hn : spacing (num / den) ∣ n) : nearestSpaced num den ≤ n := by
  obtain ⟨steps, hsteps⟩ := hn
  have hsize := Nat.mul_pos hden (spacing_pos (num / den))
  have hback : num ≤ steps * (den * spacing (num / den)) := by
    refine Nat.le_trans h (Nat.le_of_eq ?_)
    rw [hsteps, Nat.mul_comm (spacing _), Nat.mul_assoc, Nat.mul_comm (spacing _)]
  have hsteps' : nearest num (den * spacing (num / den)) ≤ steps := by
    have hmono : nearest num (den * spacing (num / den)) ≤
      nearest (steps * (den * spacing (num / den))) (den * spacing (num / den)) := nearest_mono hback
    rwa [nearest_mul hsize] at hmono
  rw [hsteps, nearestSpaced, Nat.mul_comm (spacing _)]
  exact Nat.mul_le_mul_right _ hsteps'

/-- Rounding keeps the order. Where the spacing grows, a power of two lies between. -/
theorem nearestSpaced_mono (hden : 0 < den) (h : num ≤ more) :
    nearestSpaced num den ≤ nearestSpaced more den := by
  have hquotients : num / den ≤ more / den := Nat.div_le_div_right h
  have hlogs : (num / den).log2 ≤ (more / den).log2 := by
    by_cases hzero : num / den = 0
    · rw [hzero]
      exact Nat.zero_le _
    · have hmore : more / den ≠ 0 :=
        Nat.ne_of_gt (Nat.lt_of_lt_of_le (Nat.pos_of_ne_zero hzero) hquotients)
      exact (Nat.le_log2 hmore).2 (Nat.le_trans (Nat.log2_self_le hzero) hquotients)
  by_cases hspacing : (num / den).log2 - 52 = (more / den).log2 - 52
  · have hsame : spacing (num / den) = spacing (more / den) := congrArg (2 ^ ·) hspacing
    unfold nearestSpaced
    rw [hsame]
    exact Nat.mul_le_mul_right _ (nearest_mono h)
  · have hgrown : (num / den).log2 < (more / den).log2 := by omega
    have hbelow : num / den < 2 ^ (more / den).log2 :=
      Nat.lt_of_lt_of_le Nat.lt_log2_self (Nat.pow_le_pow_right (by decide) hgrown)
    have habove : 2 ^ (more / den).log2 ≤ more / den := Nat.log2_self_le (by
      intro hzero
      rw [hzero, Nat.log2_zero] at hgrown
      omega)
    calc nearestSpaced num den
        ≤ 2 ^ (more / den).log2 :=
          nearestSpaced_le_of_le hden (Nat.le_of_lt ((Nat.div_lt_iff_lt_mul hden).1 hbelow))
            (spacing_dvd_two_pow (by omega))
      _ ≤ nearestSpaced more den :=
          le_nearestSpaced hden ((Nat.le_div_iff_mul_le hden).1 habove)
            (spacing_dvd_two_pow (by omega))

theorem nearestSpaced_scale (hk : 0 < k) : nearestSpaced (num * k) (den * k) = nearestSpaced num den := by
  unfold nearestSpaced
  rw [Nat.mul_div_mul_right num den hk, Nat.mul_right_comm den k, nearest_scale hk]

/-! ### Numbers nearest to whole numbers -/

/-- The number nearest to a whole number. -/
def rounded (n : Nat) : Nat := nearestSpaced (n * unit) 1 / unit

/-- Numbers below `2 ^ j` are spaced by a part of one. -/
theorem spacing_mul_dvd_unit {j : Nat} (hj : j ≤ 53) (h : n < 2 ^ j * unit) :
    2 ^ (53 - j) * spacing n ∣ unit := by
  obtain ⟨k, hk, hunit, _⟩ := exists_exponents
  rw [hunit, ← Nat.pow_add] at h
  have hexponent : k = 53 - j + (j + k - 53) := by omega
  have hsplit : unit = 2 ^ (53 - j) * 2 ^ (j + k - 53) := by
    rw [hunit, ← Nat.pow_add]
    exact congrArg (2 ^ ·) hexponent
  rw [hsplit]
  exact Nat.mul_dvd_mul_left _ (spacing_dvd_two_pow_of_lt h)

theorem spacing_dvd_unit (h : n ≤ 2 ^ 53) : spacing (n * unit) ∣ n * unit := by
  obtain ⟨k, _, hunit, _⟩ := exists_exponents
  rw [hunit]
  exact spacing_dvd_mul h

theorem nearestSpaced_unit (h : n ≤ 2 ^ 53) : nearestSpaced (n * unit) 1 = n * unit := by
  have hexact := nearestSpaced_mul Nat.one_pos (spacing_dvd_unit h)
  rwa [Nat.mul_one] at hexact

/-- Past `2 ^ 53` the spacing is a whole number. -/
theorem unit_dvd_spacing (h : 2 ^ 53 < n) : unit ∣ spacing (n * unit) := by
  obtain ⟨k, _, hunit, _⟩ := exists_exponents
  have hpow : 2 ^ (53 + k) ≤ n * 2 ^ k := by
    rw [Nat.pow_add]
    exact Nat.mul_le_mul_right _ (Nat.le_of_lt h)
  have hzero : n * 2 ^ k ≠ 0 := Nat.ne_of_gt (Nat.lt_of_lt_of_le (Nat.two_pow_pos _) hpow)
  have hlog := (Nat.le_log2 hzero).2 hpow
  rw [hunit]
  exact two_pow_dvd_spacing (by omega)

theorem rounded_mul_unit (n : Nat) : rounded n * unit = nearestSpaced (n * unit) 1 := by
  refine Nat.div_mul_cancel ?_
  by_cases h : n ≤ 2 ^ 53
  · rw [nearestSpaced_unit h]
    exact Nat.dvd_mul_left unit n
  · have hspacing := unit_dvd_spacing (Nat.lt_of_not_le h)
    rw [nearestSpaced, Nat.div_one]
    exact Nat.dvd_trans hspacing (Nat.dvd_mul_left _ _)

theorem rounded_of_le (h : n ≤ 2 ^ 53) : rounded n = n := by
  rw [rounded, nearestSpaced_unit h]
  exact Nat.mul_div_cancel n unit_pos

theorem rounded_mono {n k : Nat} (h : n ≤ k) : rounded n ≤ rounded k :=
  Nat.div_le_div_right (nearestSpaced_mono Nat.one_pos (Nat.mul_le_mul_right unit h))

end Audience.Rounding
