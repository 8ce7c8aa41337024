import Audience.Proofs.Numeric.Nearest

/-!
# What rounding finds

Rounding to 53 significant bits finds the one number of that form that is nearest to a quotient, and
where two are equally near, the one with the even significand.

* **`Rounding.IsFloat`**: the numbers with 53 significant bits. **`Rounding.isFloat_iff`**: they are the
  multiples of their own spacing.
* **`Rounding.IsNearest`**: what it is to be nearest. **`Rounding.isNearest_nearestSpaced`**: rounding
  finds such a number. **`Rounding.IsNearest.unique`**: there is no other.
-/

namespace Audience.Rounding

variable {num den n k : Nat}

/-- The number has at most 53 significant bits. -/
def IsFloat (n : Nat) : Prop :=
  ∃ significand exponent, significand < 2 ^ 53 ∧ n = significand * 2 ^ exponent

/-- The significant bits of a number that has at most 53 of them. -/
def significand (n : Nat) : Nat := n / spacing n

/-- How far a number is from `num / den`, times `den`. -/
def distance (num den n : Nat) : Nat := (((n * den : Nat) : Int) - num).natAbs

/-- The number with 53 significant bits nearest to `num / den`. Where another one is as near, the
significand is even. -/
structure IsNearest (num den n : Nat) : Prop where
  isFloat : IsFloat n
  closest : ∀ k, IsFloat k → distance num den n ≤ distance num den k
  even : ∀ k, IsFloat k → k ≠ n → distance num den k = distance num den n → 2 ∣ significand n

/-! ### Numbers with 53 significant bits -/

theorem significand_lt (n : Nat) : significand n < 2 ^ 53 := by
  rw [significand, Nat.div_lt_iff_lt_mul (spacing_pos n), spacing, ← Nat.pow_add]
  exact Nat.lt_of_lt_of_le Nat.lt_log2_self (Nat.pow_le_pow_right (by decide) (by omega))

theorem isFloat_mul {steps size : Nat} (h : steps ≤ 2 ^ 53) : IsFloat (steps * 2 ^ size) := by
  have hspacing := spacing_dvd_mul (s := size) h
  exact ⟨significand (steps * 2 ^ size), _, significand_lt _, (Nat.div_mul_cancel hspacing).symm⟩

theorem isFloat_iff : IsFloat n ↔ spacing n ∣ n := by
  constructor
  · rintro ⟨steps, size, hsteps, rfl⟩
    exact spacing_dvd_mul (Nat.le_of_lt hsteps)
  · intro h
    exact ⟨significand n, _, significand_lt n, (Nat.div_mul_cancel h).symm⟩

theorem spacing_dvd_spacing (h : n ≤ k) : spacing n ∣ spacing k := by
  refine two_pow_dvd_spacing (Nat.sub_le_sub_right ?_ 52)
  by_cases hn : n = 0
  · rw [hn, Nat.log2_zero]
    exact Nat.zero_le _
  · exact (Nat.le_log2 (by omega)).2 (Nat.le_trans (Nat.log2_self_le hn) h)

/-- A number with 53 significant bits is a multiple of the spacing of any smaller one. -/
theorem spacing_dvd_of_le (hk : IsFloat k) (h : n ≤ k) : spacing n ∣ k :=
  Nat.dvd_trans (spacing_dvd_spacing h) (isFloat_iff.1 hk)

/-! ### Rounding finds the nearest -/

theorem nearest_cases (num den : Nat) :
    nearest num den = num / den ∧ 2 * (num % den) ≤ den ∨
      nearest num den = num / den + 1 ∧ den ≤ 2 * (num % den) := by
  simp only [nearest]
  split
  · exact .inl ⟨rfl, by omega⟩
  · split
    · exact .inr ⟨rfl, by omega⟩
    · omega

/-- Of the whole numbers none is nearer to a quotient. -/
theorem nearest_closest (hden : 0 < den) (k : Nat) :
    distance num den (nearest num den) ≤ distance num den k := by
  have hsplit : num / den * den + num % den = num := by
    rw [Nat.mul_comm]
    exact Nat.div_add_mod num den
  have hrest := Nat.mod_lt num hden
  have hnext : (num / den + 1) * den = num / den * den + den := Nat.succ_mul _ _
  have hside : k * den ≤ num / den * den ∨ num / den * den + den ≤ k * den := by
    rw [← hnext]
    exact (Nat.lt_or_ge (num / den) k).symm.imp (Nat.mul_le_mul_right den) (Nat.mul_le_mul_right den)
  unfold distance
  obtain ⟨hfound, _⟩ | ⟨hfound, _⟩ := nearest_cases num den
  · rw [hfound]
    omega
  · rw [hfound, hnext]
    omega

/-- Different whole numbers are a step or more apart. -/
theorem step_le_of_ne (den : Nat) (h : k ≠ n) : k * den + den ≤ n * den ∨ n * den + den ≤ k * den := by
  rw [← Nat.succ_mul, ← Nat.succ_mul]
  exact (Nat.lt_or_gt_of_ne h).imp (Nat.mul_le_mul_right den) (Nat.mul_le_mul_right den)

/-- Where another whole number is as near, an even one is found. -/
theorem nearest_even (hden : 0 < den) (hne : k ≠ nearest num den)
    (h : distance num den k = distance num den (nearest num den)) : 2 ∣ nearest num den := by
  have hsplit : num / den * den + num % den = num := by
    rw [Nat.mul_comm]
    exact Nat.div_add_mod num den
  have hrest := Nat.mod_lt num hden
  have hnext : (num / den + 1) * den = num / den * den + den := Nat.succ_mul _ _
  have hside := step_le_of_ne den hne
  unfold distance at h
  -- a quotient that is no half has one nearest number only
  have htie : 2 * (num % den) = den := by
    obtain ⟨hfound, _⟩ | ⟨hfound, _⟩ := nearest_cases num den
    · rw [hfound] at h hside
      omega
    · rw [hfound, hnext] at h hside
      omega
  have hfound : nearest num den = num / den + num / den % 2 := by
    simp only [nearest]
    rw [if_neg (by omega), if_neg (by omega)]
  omega

theorem distance_mul (num den steps size : Nat) :
    distance num den (steps * size) = distance num (den * size) steps := by
  rw [distance, distance, Nat.mul_assoc, Nat.mul_comm size]

theorem nearest_le_two_pow (num den : Nat) :
    nearest num (den * spacing (num / den)) ≤ 2 ^ 53 := by
  have hle := nearest_le num (den * spacing (num / den))
  have hfloor := significand_lt (num / den)
  rw [significand, Nat.div_div_eq_div_mul] at hfloor
  omega

/-- A number that is not spaced like the quotient lies below the power of two that starts the quotient's
spacing, which is nearer. -/
theorem distance_lt_of_not_dvd (hden : 0 < den) (hk : IsFloat k) (h : ¬ spacing (num / den) ∣ k) :
    distance num den (nearestSpaced num den) < distance num den k := by
  have hzero : num / den ≠ 0 := by
    intro hzero
    rw [hzero] at h
    exact h (Nat.one_dvd k)
  have hstart : spacing (2 ^ (num / den).log2) = spacing (num / den) := by
    rw [spacing, Nat.log2_two_pow, spacing]
  have hbelow : k < 2 ^ (num / den).log2 := by
    refine Nat.lt_of_not_le fun hle => h ?_
    rw [← hstart]
    exact spacing_dvd_of_le hk hle
  have hpower : 2 ^ (num / den).log2 * den ≤ num :=
    (Nat.le_div_iff_mul_le hden).1 (Nat.log2_self_le hzero)
  obtain ⟨steps, hsteps⟩ : spacing (num / den) ∣ 2 ^ (num / den).log2 :=
    spacing_dvd_two_pow (Nat.sub_le _ _)
  have hclosest : distance num den (nearestSpaced num den) ≤
      distance num den (2 ^ (num / den).log2) := by
    rw [hsteps, Nat.mul_comm, distance_mul, nearestSpaced, distance_mul]
    exact nearest_closest (Nat.mul_pos hden (spacing_pos _)) steps
  have hfarther := Nat.mul_lt_mul_of_pos_right hbelow hden
  unfold distance at hclosest ⊢
  omega

theorem significand_even {steps size : Nat} (hsteps : steps ≤ 2 ^ 53) (heven : 2 ∣ steps) :
    2 ∣ significand (steps * 2 ^ size) := by
  by_cases hlt : steps < 2 ^ 53
  · have hbelow : steps * 2 ^ size < 2 ^ (size + 53) := by
      rw [Nat.pow_add, Nat.mul_comm]
      exact Nat.mul_lt_mul_of_pos_left hlt (Nat.two_pow_pos size)
    have hspacing := spacing_dvd_two_pow_of_lt hbelow
    rw [Nat.add_sub_cancel] at hspacing
    rw [significand, Nat.mul_div_assoc steps hspacing]
    exact Nat.dvd_mul_right_of_dvd heven _
  · have hpower : steps * 2 ^ size = 2 ^ 52 * 2 ^ (size + 1) := by
      rw [Nat.le_antisymm hsteps (Nat.le_of_not_lt hlt), ← Nat.pow_add, ← Nat.pow_add]
      congr 1
      omega
    have hspacing : spacing (2 ^ 52 * 2 ^ (size + 1)) = 2 ^ (size + 1) := by
      rw [spacing, ← Nat.pow_add, Nat.log2_two_pow]
      congr 1
      omega
    rw [hpower, significand, hspacing, Nat.mul_div_cancel _ (Nat.two_pow_pos _)]
    exact Nat.dvd_of_mod_eq_zero rfl

/-- Rounding finds a nearest number. -/
theorem isNearest_nearestSpaced (hden : 0 < den) : IsNearest num den (nearestSpaced num den) where
  isFloat := isFloat_mul (nearest_le_two_pow num den)
  closest k hk := by
    by_cases hspaced : spacing (num / den) ∣ k
    · obtain ⟨steps, rfl⟩ := hspaced
      rw [Nat.mul_comm (spacing _), distance_mul, nearestSpaced, distance_mul]
      exact nearest_closest (Nat.mul_pos hden (spacing_pos _)) steps
    · exact Nat.le_of_lt (distance_lt_of_not_dvd hden hk hspaced)
  even k hk hne h := by
    by_cases hspaced : spacing (num / den) ∣ k
    · obtain ⟨steps, rfl⟩ := hspaced
      rw [Nat.mul_comm (spacing _)] at hne h
      rw [distance_mul, nearestSpaced, distance_mul] at h
      refine significand_even (nearest_le_two_pow num den) ?_
      refine nearest_even (Nat.mul_pos hden (spacing_pos _)) ?_ h
      intro heq
      exact hne (congrArg (· * spacing (num / den)) heq)
    · exact absurd h (Nat.ne_of_gt (distance_lt_of_not_dvd hden hk hspaced))

/-! ### There is one nearest number -/

theorem significand_mul_spacing (h : IsFloat n) : significand n * spacing n = n :=
  Nat.div_mul_cancel (isFloat_iff.1 h)

/-- No number lies between two that are as near as any. -/
theorem IsNearest.next_eq (hden : 0 < den) (h : IsNearest num den n) (h' : IsNearest num den k)
    (hlt : n < k) : k = (significand n + 1) * spacing n := by
  have hsame : distance num den n = distance num den k :=
    Nat.le_antisymm (h.closest k h'.isFloat) (h'.closest n h.isFloat)
  have hstart := significand_mul_spacing h.isFloat
  obtain ⟨steps, rfl⟩ : spacing n ∣ k := spacing_dvd_of_le h'.isFloat (Nat.le_of_lt hlt)
  rw [Nat.mul_comm] at hlt hsame ⊢
  have hsteps : significand n < steps := by
    refine Nat.lt_of_mul_lt_mul_right (a := spacing n) ?_
    rwa [hstart]
  by_cases hnext : significand n + 1 = steps
  · rw [hnext]
  · -- the next number would be nearer than both
    have hbetween : n < (significand n + 1) * spacing n ∧
        (significand n + 1) * spacing n < steps * spacing n := by
      constructor
      · rw [Nat.succ_mul, hstart]
        exact Nat.lt_add_of_pos_right (spacing_pos n)
      · exact Nat.mul_lt_mul_of_pos_right (by omega) (spacing_pos n)
    have hclosest : distance num den n ≤ distance num den ((significand n + 1) * spacing n) :=
      h.closest _ (isFloat_mul (significand_lt n))
    have hlow := Nat.mul_lt_mul_of_pos_right hbetween.1 hden
    have hhigh := Nat.mul_lt_mul_of_pos_right hbetween.2 hden
    unfold distance at hclosest hsame
    omega

/-- Of two numbers that are as near as any, one has an odd significand. -/
theorem IsNearest.not_lt (hden : 0 < den) (h : IsNearest num den n) (h' : IsNearest num den k) :
    ¬ n < k := by
  intro hlt
  have hsame : distance num den n = distance num den k :=
    Nat.le_antisymm (h.closest k h'.isFloat) (h'.closest n h.isFloat)
  have hlower : 2 ∣ significand n := h.even k h'.isFloat (Nat.ne_of_gt hlt) hsame.symm
  obtain ⟨half, hupper⟩ : 2 ∣ significand k := h'.even n h.isFloat (Nat.ne_of_lt hlt) hsame
  obtain ⟨wider, hwider⟩ := spacing_dvd_spacing (Nat.le_of_lt hlt)
  have hnext : (significand n + 1) * spacing n = 2 * (half * wider) * spacing n := by
    calc (significand n + 1) * spacing n
        = k := (h.next_eq hden h' hlt).symm
      _ = significand k * spacing k := (significand_mul_spacing h'.isFloat).symm
      _ = 2 * half * (spacing n * wider) := by rw [hupper, hwider]
      _ = 2 * (half * wider) * spacing n := by
        rw [Nat.mul_comm (spacing n), ← Nat.mul_assoc, Nat.mul_assoc 2]
  have hodd : significand n + 1 = 2 * (half * wider) :=
    Nat.eq_of_mul_eq_mul_right (spacing_pos n) hnext
  omega

/-- There is one nearest number. -/
theorem IsNearest.unique (hden : 0 < den) (h : IsNearest num den n) (h' : IsNearest num den k) :
    n = k :=
  Nat.le_antisymm (Nat.le_of_not_lt (h'.not_lt hden h)) (Nat.le_of_not_lt (h.not_lt hden h'))

end Audience.Rounding
