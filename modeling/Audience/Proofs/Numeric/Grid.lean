import Audience.Proofs.Numeric.Closest
import Audience.Proofs.Numeric.Order
import Audience.Proofs.Numeric.Shortest

/-!
# The grid of the shortest decimal

The decimal that is written for a magnitude is a point of some grid of multiples of a power of ten. A
grid that is fine enough against the spacing of the magnitude has a point that reads back, so the search
for one ends on a grid at least that coarse. The decimal has no more digits than fit that grid.

* **`Rounding.nearestSpaced_eq_of_near`**: what is near enough to a number is rounded to it.
* **`Magnitude.exists_gridPoint?`**: a fine grid has a point that reads back.
* **`Magnitude.fineExponent_spec`**, **`Magnitude.exists_gridPoint?_shortest`**: for every magnitude there
  is a fine grid among those searched, with at most eighteen digits in its points beside the magnitude.
* **`Magnitude.digits_shortest_le`**, **`Magnitude.exponent_shortest_bounds`**: the digits and the
  exponent of the decimal that is written. **`Magnitude.le_exponent_shortest`**: the exponent past
  `2 ^ 1023`.
-/

namespace Audience

/-! ### What is rounded to a number -/

namespace Rounding

variable {num den n k gap : Nat}

theorem add_le_of_dvd (hn : gap ∣ n) (hk : gap ∣ k) (h : n < k) : n + gap ≤ k := by
  have hle := Nat.le_of_dvd (Nat.sub_pos_of_lt h) (Nat.dvd_sub hk hn)
  omega

/-- The numbers with 53 significant bits other than `n` are half of `gap` away from it, or more. -/
def Apart (gap n : Nat) : Prop :=
  ∀ k, IsFloat k → k ≠ n → 2 * k + gap ≤ 2 * n ∨ 2 * n + gap ≤ 2 * k

/-- What is near enough to a number is rounded to it. -/
theorem nearestSpaced_eq_of_near (hden : 0 < den) (hn : IsFloat n) (hapart : Apart gap n)
    (h : 4 * distance num den n < gap * den) : nearestSpaced num den = n := by
  have hcloser : ∀ k, IsFloat k → k ≠ n → distance num den n < distance num den k := by
    intro k hk hne
    unfold distance at *
    rcases hapart k hk hne with hbelow | habove
    · have hscaled := Nat.mul_le_mul_right den hbelow
      rw [Nat.add_mul, Nat.mul_assoc, Nat.mul_assoc] at hscaled
      omega
    · have hscaled := Nat.mul_le_mul_right den habove
      rw [Nat.add_mul, Nat.mul_assoc, Nat.mul_assoc] at hscaled
      omega
  have hnearest : IsNearest num den n := by
    refine ⟨hn, fun k hk => ?_, fun k hk hne h => ?_⟩
    · by_cases hne : k = n
      · exact Nat.le_of_eq (congrArg _ hne.symm)
      · exact Nat.le_of_lt (hcloser k hk hne)
    · exact absurd h (Nat.ne_of_gt (hcloser k hk hne))
  exact (isNearest_nearestSpaced hden).unique hden hnearest

theorem spacing_two_pow (k : Nat) : spacing (2 ^ k) = 2 ^ (k - 52) := by
  rw [spacing, Nat.log2_two_pow]

/-- A number starts where its spacing does, or the spacing is as wide below it. -/
theorem apart_of_start_lt (hn : IsFloat n) (h : 2 ^ n.log2 < n) : Apart (2 * spacing n) n := by
  intro k hk hne
  have hspaced := isFloat_iff.1 hn
  rcases Nat.lt_or_gt_of_ne hne with hlt | hgt
  · have hstart : spacing (2 ^ n.log2) = spacing n := spacing_two_pow _
    have hbelow : k + spacing n ≤ n := by
      by_cases hle : 2 ^ n.log2 ≤ k
      · exact add_le_of_dvd (hstart ▸ spacing_dvd_of_le hk hle) hspaced hlt
      · have hstep := add_le_of_dvd (spacing_dvd_two_pow (Nat.sub_le _ _)) hspaced h
        omega
    omega
  · have habove := add_le_of_dvd hspaced (spacing_dvd_of_le hk (Nat.le_of_lt hgt)) hgt
    omega

/-- Below a power of two, numbers are spaced half as widely as above it. -/
theorem apart_spacing (hn : IsFloat n) (hpos : n ≠ 0) : Apart (spacing n) n := by
  by_cases hstart : 2 ^ n.log2 < n
  · intro k hk hne
    rcases apart_of_start_lt hn hstart k hk hne with h | h <;> omega
  · have hpower : n = 2 ^ n.log2 :=
      Nat.le_antisymm (Nat.le_of_not_lt hstart) (Nat.log2_self_le hpos)
    intro k hk hne
    generalize n.log2 = size at hpower
    subst hpower
    rw [spacing_two_pow]
    rcases Nat.lt_or_gt_of_ne hne with hlt | hgt
    · left
      by_cases hsmall : size ≤ 52
      · rw [Nat.sub_eq_zero_of_le hsmall]
        omega
      · -- half the power of two starts the spacing below it
        obtain ⟨half, rfl⟩ : ∃ half, size = half + 53 := ⟨size - 53, by omega⟩
        have hhalf : 2 ^ (half + 53) = 2 * 2 ^ (half + 52) := Nat.pow_succ'
        have hwide : 2 ^ (half + 53 - 52) = 2 * 2 ^ half := by
          rw [show half + 53 - 52 = half + 1 by omega, Nat.pow_succ']
        have hfine : 2 ^ half ≤ 2 ^ (half + 52) := Nat.pow_le_pow_right (by decide) (by omega)
        rw [hwide]
        by_cases hle : 2 ^ (half + 52) ≤ k
        · have hspaced : 2 ^ half ∣ k := by
            have hdvd := spacing_dvd_of_le hk hle
            rwa [spacing_two_pow, Nat.add_sub_cancel] at hdvd
          have hstep := add_le_of_dvd hspaced (Nat.pow_dvd_pow 2 (by omega)) hlt
          omega
        · omega
    · right
      have habove := add_le_of_dvd (spacing_two_pow size ▸ isFloat_iff.1 hn)
        (spacing_two_pow size ▸ spacing_dvd_of_le hk (Nat.le_of_lt hgt)) hgt
      omega

end Rounding

/-! ### Points that read back -/

namespace Magnitude

variable {size : Magnitude} {point : Decimal} {exponent : Int} {gap : Nat}

theorem inPowersOfTen_eq (size : Magnitude) (exponent : Int) : size.inPowersOfTen exponent =
    (size.quanta * 10 ^ (-exponent).toNat, unit * 10 ^ exponent.toNat) := by
  rw [inPowersOfTen]
  split
  · rename_i h
    rw [show (-exponent).toNat = 0 by omega, Nat.pow_zero, Nat.mul_one]
  · rename_i h
    rw [show exponent.toNat = 0 by omega, Nat.pow_zero, Nat.mul_one]

theorem isFloat_quanta (size : Magnitude) : Rounding.IsFloat size.quanta :=
  Rounding.isFloat_iff.2 size.representable.2

theorem nearestQuanta?_eq_some {num den : Nat} (h : Rounding.nearestSpaced num den = size.quanta) :
    nearestQuanta? num den = some size := by
  have hlt : Rounding.nearestSpaced num den < ceiling := by
    rw [h]
    exact size.representable.1
  rw [nearestQuanta?, dif_pos hlt]
  exact congrArg some (ext_quanta h)

/-- On a fine grid the point nearest to a magnitude reads back as it. -/
theorem nearest?_of_near (digits : Nat) (hapart : Rounding.Apart gap size.quanta)
    (hfine : 2 * (unit * 10 ^ exponent.toNat) < gap * 10 ^ (-exponent).toNat)
    (hnear : 2 * Rounding.distance (size.quanta * 10 ^ (-exponent).toNat)
      (unit * 10 ^ exponent.toNat) digits ≤ unit * 10 ^ exponent.toNat) :
    Decimal.nearest? ⟨digits, exponent⟩ = some size := by
  rw [Decimal.nearest?_eq]
  refine nearestQuanta?_eq_some (Rounding.nearestSpaced_eq_of_near (Nat.pow_pos (by decide))
    size.isFloat_quanta hapart ?_)
  have hpoint : digits * 10 ^ exponent.toNat * unit = digits * (unit * 10 ^ exponent.toNat) := by
    rw [Nat.mul_assoc, Nat.mul_comm unit]
  dsimp only
  unfold Rounding.distance at *
  rw [hpoint]
  omega

/-- A fine grid has a point that reads back. -/
theorem exists_gridPoint? (exponent : Int) (hapart : Rounding.Apart gap size.quanta)
    (hfine : 2 * (unit * 10 ^ exponent.toNat) < gap * 10 ^ (-exponent).toNat) :
    ∃ point, size.gridPoint? exponent = some point := by
  have hden : 0 < unit * 10 ^ exponent.toNat := Nat.mul_pos unit_pos (Nat.pow_pos (by decide))
  have hread := fun digits => nearest?_of_near digits hapart hfine
  rw [gridPoint?, inPowersOfTen_eq]
  dsimp only
  generalize size.quanta * 10 ^ (-exponent).toNat = num at *
  generalize unit * 10 ^ exponent.toNat = den at *
  have hsplit : num / den * den + num % den = num := by
    rw [Nat.mul_comm]
    exact Nat.div_add_mod num den
  by_cases hlower : 2 * (num % den) < den
  · have hfirst := hread (num / den) (by
      unfold Rounding.distance
      omega)
    rw [if_pos hlower]
    exact ⟨_, if_pos hfirst⟩
  · have hrest := Nat.mod_lt num hden
    have hnext : (num / den + 1) * den = num / den * den + den := Nat.succ_mul _ _
    have hfirst := hread (num / den + 1) (by
      unfold Rounding.distance
      rw [hnext]
      omega)
    rw [if_neg hlower]
    exact ⟨_, if_pos hfirst⟩

/-- What is found on a grid is one of the points beside the magnitude. -/
theorem of_gridPoint? (h : size.gridPoint? exponent = some point) : point.exponent = exponent ∧
    point.digits ≤ size.quanta * 10 ^ (-exponent).toNat / (unit * 10 ^ exponent.toNat) + 1 := by
  rw [gridPoint?, inPowersOfTen_eq] at h
  dsimp only at h
  split at h <;> dsimp only at h <;> split at h
  · cases h
    exact ⟨rfl, Nat.le_succ _⟩
  · split at h
    · cases h
      exact ⟨rfl, Nat.le_refl _⟩
    · cases h
  · cases h
    exact ⟨rfl, Nat.le_refl _⟩
  · split at h
    · cases h
      exact ⟨rfl, Nat.le_succ _⟩
    · cases h

/-- The search ends on the first grid with a point that reads back. -/
theorem exists_searchGrids (start : Int) (grids steps : Nat) (hsteps : steps < grids)
    (h : ∃ point, size.gridPoint? (start - steps) = some point) :
    ∃ point found, size.searchGrids start grids = some point ∧
      size.gridPoint? found = some point ∧ start - steps ≤ found ∧ found ≤ start := by
  induction grids generalizing start steps with
  | zero => omega
  | succ grids ih =>
    rw [searchGrids]
    cases hpoint : size.gridPoint? start with
    | some point => exact ⟨point, start, rfl, hpoint, by omega, Int.le_refl _⟩
    | none =>
      cases steps with
      | zero =>
        obtain ⟨point, h⟩ := h
        rw [Int.natCast_zero, Int.sub_zero, hpoint] at h
        cases h
      | succ steps =>
        have hnext : start - 1 - (steps : Int) = start - (steps + 1 : Nat) := by omega
        obtain ⟨point, found, hsearch, hfound, hlower, hupper⟩ :=
          ih (start - 1) steps (by omega) (by rwa [hnext])
        exact ⟨point, found, hsearch, hfound, by omega, by omega⟩

/-! ### Grids that are fine enough -/

/-- The exponent of a grid that is fine enough for magnitudes with so many bits. -/
def fineExponent (bits : Nat) : Int := (((max bits 52 : Nat) : Int) - 1128) * 30103 / 100000

/-- For every number of bits: the grid is fine, the points beside a magnitude have at most eighteen
digits, and the search from the coarsest grid reaches it. -/
theorem fineExponent_spec : ∀ bits < 2098,
    4 * (unit * 10 ^ (fineExponent bits).toNat) ≤ 2 ^ (bits - 52) * 10 ^ (-fineExponent bits).toNat ∧
      2 ^ (bits + 1) * 10 ^ (-fineExponent bits).toNat <
        10 ^ 18 * (unit * 10 ^ (fineExponent bits).toNat) ∧
      ((bits : Int) - 1074) * 30103 / 100000 + 1 ≤ fineExponent bits + 18 ∧
      fineExponent bits ≤ ((bits : Int) - 1074) * 30103 / 100000 + 1 ∧
      -324 ≤ fineExponent bits ∧ ((bits : Int) - 1074) * 30103 / 100000 + 1 ≤ 308 := by
  decide +kernel

theorem log2_quanta_lt (hsize : size.quanta ≠ 0) : size.quanta.log2 < 2098 := by
  obtain ⟨k, hk, -, hceiling⟩ := exists_exponents
  have hlt := size.representable.1
  rw [hceiling] at hlt
  have hlog := (Nat.log2_lt hsize).2 hlt
  omega

theorem shortest_of_searchGrids (hsize : size.quanta ≠ 0)
    (h : size.searchGrids size.coarsestExponent 20 = some point) : size.shortest = point := by
  rw [shortest, if_neg hsize, h, Option.getD_some]

/-- The decimal that is written lies on a grid between the coarsest one and a fine one. -/
theorem exists_gridPoint?_shortest (hsize : size.quanta ≠ 0) : ∃ found,
    size.gridPoint? found = some size.shortest ∧ fineExponent size.quanta.log2 ≤ found ∧
      found ≤ size.coarsestExponent := by
  obtain ⟨hfine, -, hreached, hle, -⟩ := fineExponent_spec _ (log2_quanta_lt hsize)
  rw [← coarsestExponent] at hreached hle
  have hunit : 0 < unit * 10 ^ (fineExponent size.quanta.log2).toNat :=
    Nat.mul_pos unit_pos (Nat.pow_pos (by decide))
  have hpoint := exists_gridPoint? (fineExponent size.quanta.log2)
    (Rounding.apart_spacing size.isFloat_quanta hsize) (by
      rw [Rounding.spacing]
      omega)
  obtain ⟨steps, hsteps⟩ :=
    Int.eq_ofNat_of_zero_le (Int.sub_nonneg_of_le hle)
  have hback : size.coarsestExponent - (steps : Int) = fineExponent size.quanta.log2 := by omega
  obtain ⟨point, found, hsearch, hfound, hlower, hupper⟩ :=
    exists_searchGrids size.coarsestExponent 20 steps (by omega) (by rwa [hback])
  rw [hback] at hlower
  exact ⟨found, shortest_of_searchGrids hsize hsearch ▸ hfound, hlower, hupper⟩

/-! ### Digits and exponents -/

theorem shortest_zero (hsize : size.quanta = 0) : size.shortest = ⟨0, 0⟩ := by
  rw [shortest, if_pos hsize]

/-- The exponents of decimals that are written. -/
theorem exponent_shortest_bounds (size : Magnitude) :
    -324 ≤ size.shortest.exponent ∧ size.shortest.exponent ≤ 308 := by
  by_cases hsize : size.quanta = 0
  · rw [shortest_zero hsize]
    decide
  · obtain ⟨found, hfound, hlower, hupper⟩ := exists_gridPoint?_shortest hsize
    obtain ⟨-, -, -, -, hleast, hgreatest⟩ := fineExponent_spec _ (log2_quanta_lt hsize)
    rw [← coarsestExponent] at hgreatest
    rw [(of_gridPoint? hfound).1]
    omega

/-- The digits of decimals that are written. -/
theorem digits_shortest_le (size : Magnitude) : size.shortest.digits ≤ 10 ^ 18 := by
  by_cases hsize : size.quanta = 0
  · rw [shortest_zero hsize]
    decide
  · obtain ⟨found, hfound, hlower, -⟩ := exists_gridPoint?_shortest hsize
    obtain ⟨-, hdigits, -⟩ := fineExponent_spec _ (log2_quanta_lt hsize)
    refine Nat.le_trans (of_gridPoint? hfound).2 ?_
    generalize fineExponent size.quanta.log2 = fine at hlower hdigits
    -- a coarser grid has fewer points below the magnitude
    have hcoarser : 10 ^ fine.toNat * 10 ^ (-found).toNat ≤ 10 ^ found.toNat * 10 ^ (-fine).toNat := by
      rw [← Nat.pow_add, ← Nat.pow_add]
      exact Nat.pow_le_pow_right (by decide) (by omega)
    have hcount : size.quanta * 10 ^ (-found).toNat < 10 ^ 18 * (unit * 10 ^ found.toNat) := by
      refine Nat.lt_of_mul_lt_mul_left (a := 10 ^ fine.toNat) ?_
      calc 10 ^ fine.toNat * (size.quanta * 10 ^ (-found).toNat)
          = size.quanta * (10 ^ fine.toNat * 10 ^ (-found).toNat) := Nat.mul_left_comm _ _ _
        _ ≤ size.quanta * (10 ^ found.toNat * 10 ^ (-fine).toNat) := Nat.mul_le_mul_left _ hcoarser
        _ ≤ 2 ^ (size.quanta.log2 + 1) * (10 ^ found.toNat * 10 ^ (-fine).toNat) :=
          Nat.mul_le_mul_right _ (Nat.le_of_lt Nat.lt_log2_self)
        _ = 10 ^ found.toNat * (2 ^ (size.quanta.log2 + 1) * 10 ^ (-fine).toNat) :=
          Nat.mul_left_comm _ _ _
        _ < 10 ^ found.toNat * (10 ^ 18 * (unit * 10 ^ fine.toNat)) :=
          Nat.mul_lt_mul_of_pos_left hdigits (Nat.pow_pos (by decide))
        _ = 10 ^ fine.toNat * (10 ^ 18 * (unit * 10 ^ found.toNat)) := by ac_rfl
    have hden : 0 < unit * 10 ^ found.toNat := Nat.mul_pos unit_pos (Nat.pow_pos (by decide))
    exact Nat.succ_le_of_lt ((Nat.div_lt_iff_lt_mul hden).2 hcount)

/-- Past half the ceiling the spacing is so wide that no finer grid is needed. -/
theorem le_exponent_shortest (h : ceiling < 2 * size.quanta) : 292 ≤ size.shortest.exponent := by
  obtain ⟨k, hk, hunit, hceiling⟩ := exists_exponents
  have hsize : size.quanta ≠ 0 := by omega
  have hlt := size.representable.1
  have hdouble : (2 : Nat) ^ (k + 1024) = 2 * 2 ^ (k + 1023) := Nat.pow_succ'
  rw [hceiling] at h hlt
  have hbits : size.quanta.log2 = k + 1023 := by
    have hlower := (Nat.le_log2 hsize).2 (show 2 ^ (k + 1023) ≤ size.quanta by omega)
    have hupper := (Nat.log2_lt hsize).2 hlt
    omega
  have hstart : 2 ^ size.quanta.log2 < size.quanta := by
    rw [hbits]
    omega
  -- the powers are too large to be computed where they stand
  obtain ⟨j, hj⟩ : ∃ j, j = 971 := ⟨971, rfl⟩
  obtain ⟨grid, hgrid⟩ : ∃ grid, grid = 292 := ⟨292, rfl⟩
  have hpower : 10 ^ grid < 2 ^ j := by
    rw [hgrid, hj]
    decide +kernel
  have hwide : Rounding.spacing size.quanta = 2 ^ j * unit := by
    rw [Rounding.spacing, hbits, hunit, ← Nat.pow_add]
    exact congrArg (2 ^ ·) (by omega)
  have hpoint := exists_gridPoint? grid (Rounding.apart_of_start_lt size.isFloat_quanta hstart) (by
      have hscaled := Nat.mul_lt_mul_of_pos_right hpower unit_pos
      rw [hwide, Int.toNat_natCast, Int.toNat_neg_natCast, Nat.pow_zero, Nat.mul_one,
        Nat.mul_comm unit]
      omega)
  have hback : size.coarsestExponent - (16 : Nat) = grid := by
    rw [coarsestExponent, hbits, hk, hgrid]
    decide
  obtain ⟨point, found, hsearch, hfound, hlower, -⟩ :=
    exists_searchGrids size.coarsestExponent 20 16 (by decide) (by rwa [hback])
  rw [shortest_of_searchGrids hsize hsearch, (of_gridPoint? hfound).1]
  omega

end Magnitude

end Audience
