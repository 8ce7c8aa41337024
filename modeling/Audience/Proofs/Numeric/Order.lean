import Audience.Numeric.Binary64

/-!
# The order of numbers by their values

* **`Binary64.order?_eq_some_iff`**: numbers other than NaN are ordered like the counts of quanta that
  say where they stand.
* **`Binary64.atMost_iff`**, **`Binary64.below_iff`**: the two comparisons.
* **`Binary64.eq_iff_signedValue_eq`**: finite numbers other than the zeros are told apart by these counts.
-/

namespace Audience

theorem Magnitude.ext_quanta {x y : Magnitude} (h : x.quanta = y.quanta) : x = y := by
  obtain ⟨xQuanta, _⟩ := x
  obtain ⟨yQuanta, _⟩ := y
  simp only at h
  subst h
  rfl

namespace Binary64

variable {x y : Binary64}

theorem order?_eq_some_iff {order : Ordering} : x.order? y = some order ↔
    (x.isNaN = false ∧ y.isNaN = false) ∧ compare x.signedValue y.signedValue = order := by
  rw [order?]
  cases x.isNaN <;> cases y.isNaN <;> simp

theorem atMost_iff : x.atMost y = true ↔
    (x.isNaN = false ∧ y.isNaN = false) ∧ x.signedValue ≤ y.signedValue := by
  rw [atMost, Bool.or_eq_true, beq_iff_eq, beq_iff_eq, order?_eq_some_iff, order?_eq_some_iff,
    ← and_or_left, Int.compare_eq_lt, Int.compare_eq_eq, ← Int.le_iff_lt_or_eq]

theorem below_iff : x.below y = true ↔
    (x.isNaN = false ∧ y.isNaN = false) ∧ x.signedValue < y.signedValue := by
  rw [below, beq_iff_eq, order?_eq_some_iff, Int.compare_eq_lt]

theorem below_eq_not_atMost (hx : x.isNaN = false) (hy : y.isNaN = false) :
    x.below y = !y.atMost x := by
  rw [Bool.eq_iff_iff, Bool.not_eq_true', ← Bool.not_eq_true, below_iff, atMost_iff,
    and_iff_right ⟨hx, hy⟩, and_iff_right ⟨hy, hx⟩, Int.not_le]

theorem isNaN_of_isFinite (h : x.isFinite = true) : x.isNaN = false := by
  cases x with
  | nan => cases h
  | infinite | finite => rfl

/-- Only infinities stand as far out as the ceiling. -/
theorem isFinite_of_natAbs_lt (hx : x.isNaN = false) (h : x.signedValue.natAbs < ceiling) :
    x.isFinite = true := by
  cases x with
  | nan => cases hx
  | infinite negative =>
    cases negative <;> simp [signedValue] at h
  | finite => rfl

theorem isFinite_neg (x : Binary64) : (-x).isFinite = x.isFinite := by
  cases x <;> rfl

theorem signedValue_neg (x : Binary64) : (-x).signedValue = -x.signedValue := by
  cases x with
  | nan => rfl
  | infinite negative =>
    cases negative with
    | false => rfl
    | true => exact (Int.neg_neg _).symm
  | finite negative size =>
    cases negative with
    | false => rfl
    | true => exact (Int.neg_neg _).symm

/-- Only the two zeros are finite numbers with one value. -/
theorem eq_iff_signedValue_eq (hx : x.isFinite = true) (hy : y.isFinite = true)
    (hzero : y.signedValue ≠ 0) : x = y ↔ x.signedValue = y.signedValue := by
  refine ⟨congrArg signedValue, fun h => ?_⟩
  cases x with
  | nan | infinite => cases hx
  | finite s a =>
    cases y with
    | nan | infinite => cases hy
    | finite t b =>
      simp only [signedValue, signedQuanta] at h hzero
      have hsign : s = t := by
        cases s <;> cases t <;> simp at h hzero ⊢ <;> omega
      subst hsign
      rw [Magnitude.ext_quanta (x := a) (y := b) (by split at h <;> omega)]

end Binary64

end Audience
