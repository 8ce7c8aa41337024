import Audience.Proofs.Duration.Move
import Audience.Proofs.Numeric.Integers
import Audience.Comparison

/-!
# Numbers of milliseconds

A number of milliseconds is kept in seconds, and the thousandth part of an integer is seldom a binary64
number. The seconds nearest to it are split again into whole seconds and milliseconds, and what they
fall short of is cut off. The milliseconds are never more than they were, and at most one fewer.

* **`Duration.secondsOf`**, **`Duration.secondsOf_error`**: the seconds nearest to some milliseconds.
* **`Duration.restOf`**, **`Duration.restOf_le`**, **`Duration.le_restOf`**: their milliseconds beyond
  whole seconds.
* **`Duration.ofMillis_reaches`**: where a number of milliseconds leads, and which length of time equals
  it.
-/

namespace Audience.Duration

open Rounding

variable {a : Nat}

/-! ### The seconds nearest to some milliseconds -/

/-- The quanta of the seconds nearest to some milliseconds. -/
def secondsOf (a : Nat) : Nat := nearestSpaced (a * unit) 1000

theorem spacing_seconds (h : a ≤ 2 ^ 53) : 2 ^ 9 * spacing (a * unit / 1000) ∣ unit := by
  refine spacing_mul_dvd_unit (j := 44) (by decide) ?_
  have hunit := unit_pos
  have hle : a * unit ≤ 2 ^ 53 * unit := Nat.mul_le_mul_right _ h
  omega

/-- The seconds are less than a millisecond off. -/
theorem secondsOf_error (h : a ≤ 2 ^ 53) :
    1024 * (a * unit) ≤ 1024 * (1000 * secondsOf a) + 1000 * unit ∧
      1024 * (1000 * secondsOf a) ≤ 1024 * (a * unit) + 1000 * unit := by
  obtain ⟨hlow, hhigh⟩ := nearestSpaced_error (a * unit) (show 0 < 1000 by decide)
  have hspacing := Nat.le_of_dvd unit_pos (spacing_seconds h)
  unfold secondsOf
  omega

theorem split_millis (a : Nat) : a * unit = 1000 * (a / 1000 * unit) + a % 1000 * unit := by
  calc a * unit = (1000 * (a / 1000) + a % 1000) * unit := by rw [Nat.div_add_mod]
    _ = 1000 * (a / 1000 * unit) + a % 1000 * unit := by rw [Nat.add_mul, Nat.mul_assoc]

/-- Rounding does not reach the next whole second, which is a millisecond away at least. -/
theorem secondsOf_div (h : a ≤ 2 ^ 53) : secondsOf a / unit = a / 1000 := by
  obtain ⟨_, hhigh⟩ := secondsOf_error h
  have hunit := unit_pos
  have hsplit := split_millis a
  have hrest : a % 1000 * unit ≤ 999 * unit := Nat.mul_le_mul_right _ (by omega)
  have hwhole : a / 1000 * unit ≤ secondsOf a := by
    refine le_nearestSpaced (by decide) (by omega) ?_
    exact Nat.dvd_trans (Nat.dvd_trans (Nat.dvd_mul_left _ _) (spacing_seconds h))
      (Nat.dvd_mul_left _ _)
  have hnext : (a / 1000 + 1) * unit = a / 1000 * unit + unit := Nat.succ_mul _ _
  exact Nat.div_eq_of_lt_le hwhole (by omega)

theorem secondsOf_split (h : a ≤ 2 ^ 53) : a / 1000 * unit + secondsOf a % unit = secondsOf a := by
  rw [← secondsOf_div h, Nat.mul_comm]
  exact Nat.div_add_mod _ _

/-! ### The milliseconds beyond whole seconds -/

/-- The quanta of the milliseconds that the seconds have beyond whole seconds. -/
def restOf (a : Nat) : Nat := nearestSpaced (1000 * (secondsOf a % unit)) 1

theorem spacing_rest (a : Nat) : 2 ^ 43 * spacing (1000 * (secondsOf a % unit)) ∣ unit := by
  refine spacing_mul_dvd_unit (j := 10) (by decide) ?_
  have hlt := Nat.mod_lt (secondsOf a) unit_pos
  omega

theorem restOf_error (a : Nat) :
    2 ^ 44 * (1000 * (secondsOf a % unit)) ≤ 2 ^ 44 * restOf a + unit ∧
      2 ^ 44 * restOf a ≤ 2 ^ 44 * (1000 * (secondsOf a % unit)) + unit := by
  obtain ⟨hlow, hhigh⟩ := nearestSpaced_error (1000 * (secondsOf a % unit)) Nat.one_pos
  rw [Nat.div_one] at hlow hhigh
  have hspacing := Nat.le_of_dvd unit_pos (spacing_rest a)
  unfold restOf
  omega

theorem restOf_le (h : a ≤ 2 ^ 53) : restOf a / unit ≤ a % 1000 := by
  obtain ⟨_, hseconds⟩ := secondsOf_error h
  obtain ⟨_, hrest⟩ := restOf_error a
  have hunit := unit_pos
  have hsplit := split_millis a
  have hwhole := secondsOf_split h
  have hnext : (a % 1000 + 1) * unit = a % 1000 * unit + unit := Nat.succ_mul _ _
  exact Nat.le_of_lt_add_one ((Nat.div_lt_iff_lt_mul hunit).2 (by omega))

theorem le_restOf (h : a ≤ 2 ^ 53) : a % 1000 ≤ restOf a / unit + 1 := by
  obtain ⟨hseconds, _⟩ := secondsOf_error h
  obtain ⟨hrest, _⟩ := restOf_error a
  have hunit := unit_pos
  have hsplit := split_millis a
  have hwhole := secondsOf_split h
  by_cases hzero : a % 1000 = 0
  · rw [hzero]
    exact Nat.zero_le _
  · have hprevious : a % 1000 * unit = (a % 1000 - 1) * unit + unit := by
      rw [← Nat.succ_mul]
      exact congrArg (· * unit) (by omega)
    have hreached := (Nat.le_div_iff_mul_le hunit).2
      (show (a % 1000 - 1) * unit ≤ restOf a by omega)
    exact Nat.sub_le_iff_le_add.1 hreached

/-- Seconds that are not below the milliseconds lose none. -/
theorem restOf_eq (h : a ≤ 2 ^ 53) (hseconds : a * unit ≤ 1000 * secondsOf a) :
    restOf a / unit = a % 1000 := by
  refine Nat.le_antisymm (restOf_le h) ((Nat.le_div_iff_mul_le unit_pos).2 ?_)
  have hsplit := split_millis a
  have hwhole := secondsOf_split h
  refine le_nearestSpaced (by decide) (by omega) ?_
  rw [Nat.div_one]
  exact Nat.dvd_trans (Nat.dvd_trans (Nat.dvd_mul_left _ _) (spacing_rest a)) (Nat.dvd_mul_left _ _)

/-! ### Durations of milliseconds -/

section

variable {m start : Int}

theorem secondsOf_lt_ceiling (h : a ≤ 2 ^ 53) : secondsOf a < ceiling := by
  obtain ⟨_, hhigh⟩ := secondsOf_error h
  have hunit := unit_pos
  have hlt := Binary64.rounded_mul_unit_lt (Nat.le_refl (2 ^ 53))
  have hle : a * unit ≤ 2 ^ 53 * unit := Nat.mul_le_mul_right _ h
  rw [rounded_of_le (Nat.le_refl _)] at hlt
  omega

theorem restOf_lt_ceiling (h : a ≤ 2 ^ 53) : restOf a < ceiling := by
  have hrest := restOf_le h
  have hlt := Binary64.rounded_mul_unit_lt (n := 1000) (by decide)
  rw [rounded_of_le (by decide)] at hlt
  have hseconds : restOf a < 1000 * unit := (Nat.div_lt_iff_lt_mul unit_pos).1 (by omega)
  omega

/-- An integer of at most `2 ^ 53` is a binary64 number. -/
theorem exists_ofInt (h : m.natAbs ≤ 2 ^ 53) : ∃ size : Magnitude,
    Binary64.ofInt m = .finite (decide (m < 0)) size ∧ size.quanta = m.natAbs * unit := by
  obtain ⟨size, hsize, hquanta⟩ := Binary64.exists_ofInt (Nat.le_trans h (by decide))
  rw [rounded_of_le h] at hquanta
  exact ⟨size, hsize, hquanta⟩

theorem positive_ofMillis (h : m.natAbs ≤ 2 ^ 53) :
    (ofMillis (Binary64.ofInt m)).positive = decide (0 ≤ m) := by
  obtain ⟨size, hsize, hquanta⟩ := exists_ofInt h
  have hpositive : (ofMillis (Binary64.ofInt m)).positive =
      Binary64.zero.atMost (.finite (decide (m < 0)) size) := by rw [hsize, ofMillis]
  rw [hpositive]
  by_cases hnegative : m < 0
  · have hsigned : (Binary64.finite true size).signedValue < 0 := by
      show -(size.quanta : Int) < 0
      have hpos := Nat.mul_pos (show 0 < m.natAbs by omega) unit_pos
      omega
    have hbelow : compare 0 (Binary64.finite true size).signedValue = .gt :=
      compare_gt_iff_gt.2 hsigned
    have horder : Binary64.zero.order? (.finite true size) = some .gt := congrArg some hbelow
    rw [decide_eq_true hnegative, Binary64.atMost, horder, decide_eq_false (by omega)]
    rfl
  · rw [decide_eq_false hnegative, decide_eq_true (by omega)]
    exact Binary64.zero_atMost_ofMagnitude size

theorem seconds_ofMillis (h : m.natAbs ≤ 2 ^ 53) :
    (ofMillis (Binary64.ofInt m)).seconds.quanta = secondsOf m.natAbs := by
  obtain ⟨size, hsize, hquanta⟩ := exists_ofInt h
  have hlt := secondsOf_lt_ceiling h
  have hround : nearestSpaced size.quanta 1000 = secondsOf m.natAbs := by rw [hquanta, secondsOf]
  have hseconds : (ofMillis (Binary64.ofInt m)).seconds = thousandth size := by rw [hsize, ofMillis]
  rw [hseconds, thousandth, Magnitude.nearestQuanta?, dif_pos (by rwa [hround])]
  exact hround

theorem whole_seconds {seconds : Magnitude} (h : a ≤ 2 ^ 53) (hseconds : seconds.quanta = secondsOf a) :
    whole (Binary64.ofMagnitude seconds) = a / 1000 := by
  have hword := Binary64.clampWord_of_lt (n := (a / 1000 : Nat)) (by omega) (by omega)
  rw [whole, Binary64.toWord_trunc_ofMagnitude, Magnitude.toNat, hseconds, secondsOf_div h, hword]
  rfl

theorem whole_rest {seconds : Magnitude} (h : a ≤ 2 ^ 53) (hseconds : seconds.quanta = secondsOf a) :
    whole (leftover (Binary64.ofMagnitude seconds) 1000) = (restOf a / unit : Nat) := by
  have hthousand : (1000 : Binary64).IsNat 1000 := Binary64.isNat_ofNat (by decide)
  obtain ⟨thousand, hliteral, hquanta⟩ := hthousand
  have hfraction : seconds.fraction.quanta = secondsOf a % unit := by rw [← hseconds]; rfl
  have hround : nearestSpaced (seconds.fraction.quanta * thousand.quanta) unit = restOf a := by
    have hscale : nearestSpaced (1000 * (secondsOf a % unit) * unit) (1 * unit) =
        nearestSpaced (1000 * (secondsOf a % unit)) 1 := nearestSpaced_scale unit_pos
    rw [Nat.one_mul] at hscale
    rw [hfraction, hquanta, restOf, ← hscale]
    exact congrArg (nearestSpaced · unit) (by rw [← Nat.mul_assoc, Nat.mul_comm (secondsOf a % unit)])
  have hrest := restOf_le h
  have hword := Binary64.clampWord_of_lt (n := (restOf a / unit : Nat))
    (Int.natCast_nonneg _) (by omega)
  rw [leftover, Binary64.ofMagnitude_sub_trunc, hliteral, Binary64.ofMagnitude_mul,
    Magnitude.nearestQuanta?, dif_pos (by rw [hround]; exact restOf_lt_ceiling h)]
  show whole (Binary64.ofMagnitude _) = _
  rw [whole, Binary64.toWord_trunc_ofMagnitude, Magnitude.toNat]
  simp only [hround]
  exact hword

theorem span_ofMillis (h : m.natAbs ≤ 2 ^ 53) : (ofMillis (Binary64.ofInt m)).span =
    (m.natAbs / 1000 : Nat) * 1000 + (restOf m.natAbs / unit : Nat) := by
  have hseconds := seconds_ofMillis h
  rw [span_eq_of_seconds rfl rfl rfl rfl, whole_seconds h hseconds, whole_rest h hseconds]
  rfl

/-- The span is at most one millisecond short. -/
theorem span_ofMillis_le (h : m.natAbs ≤ 2 ^ 53) :
    (ofMillis (Binary64.ofInt m)).span ≤ m.natAbs ∧
      m.natAbs ≤ (ofMillis (Binary64.ofInt m)).span + 1 := by
  have hle := restOf_le h
  have hshort := le_restOf h
  rw [span_ofMillis h]
  omega

/-- Nothing is lost of whole seconds, nor if the seconds are not below the milliseconds. -/
theorem span_ofMillis_eq (h : m.natAbs ≤ 2 ^ 53) (hexact : 1000 ∣ m ∨
      m.natAbs * unit ≤ 1000 * (ofMillis (Binary64.ofInt m)).seconds.quanta) :
    (ofMillis (Binary64.ofInt m)).span = m.natAbs := by
  have hrest : restOf m.natAbs / unit = m.natAbs % 1000 := by
    obtain hwhole | hseconds := hexact
    · have hzero : m.natAbs % 1000 = 0 := by omega
      have hle := restOf_le h
      rw [hzero] at hle ⊢
      exact Nat.le_zero.1 hle
    · rw [seconds_ofMillis h] at hseconds
      exact restOf_eq h hseconds
  rw [span_ofMillis h, hrest]
  omega

theorem directed_ofMillis (h : m.natAbs ≤ 2 ^ 53) (units : Int) :
    (ofMillis (Binary64.ofInt m)).directed units = if 0 ≤ m then units else -units := by
  rw [directed, positive_ofMillis h]
  simp only [decide_eq_true_eq]

theorem apply_ofMillis (h : m.natAbs ≤ 2 ^ 53) (hstart : InCalendar start)
    (hend : InCalendar (start + m)) : (ofMillis (Binary64.ofInt m)).apply start =
      start + (ofMillis (Binary64.ofInt m)).directed (ofMillis (Binary64.ofInt m)).span := by
  have hle := span_ofMillis_le h
  have hnonneg := (ofMillis (Binary64.ofInt m)).span_nonneg
  refine apply_eq rfl rfl hstart (inCalendar_of_between hstart hend ?_)
  rw [directed_ofMillis h]
  split <;> omega

/-- A number of milliseconds moves an instant by itself or by one fewer, and by itself if it is whole
seconds or the nearest number of seconds is not below it. A length of time equals the number read for a
source of such lengths where the number moves by itself. -/
theorem ofMillis_reaches (m start : Int) (h : m.natAbs ≤ 2 ^ 53) (hstart : InCalendar start)
    (hend : InCalendar (start + m)) :
    ((ofMillis (Binary64.ofInt m)).apply start = start + m ∨
      (ofMillis (Binary64.ofInt m)).apply start = start + m - m.sign) ∧
    (1000 ∣ m ∨ m.natAbs * unit ≤ 1000 * (ofMillis (Binary64.ofInt m)).seconds.quanta →
      (ofMillis (Binary64.ofInt m)).apply start = start + m) ∧
    (∀ (place : Place) (parent : Source) (fits : -(2 ^ 63) ≤ m ∧ m < 2 ^ 64),
      place.source = .elapsedTime parent → Literal.ofJson place (.number (.integer m fits)) =
        .ok (.duration (ofMillis (Binary64.ofInt m)))) ∧
    ∀ now, (Datum.elapsed start (start + m)).equals now (.duration (ofMillis (Binary64.ofInt m))) =
      true ↔ (ofMillis (Binary64.ofInt m)).apply start = start + m := by
  have happly := apply_ofMillis h hstart hend
  rw [directed_ofMillis h] at happly
  refine ⟨?_, ?_, ?_, ?_⟩
  · obtain ⟨hle, hshort⟩ := span_ofMillis_le h
    have hnonneg := (ofMillis (Binary64.ofInt m)).span_nonneg
    rw [happly]
    obtain hnegative | rfl | hpositive := Int.lt_trichotomy m 0
    · rw [if_neg (by omega), Int.sign_eq_neg_one_of_neg hnegative]
      omega
    · rw [if_pos (Int.le_refl 0), Int.sign_zero]
      omega
    · rw [if_pos (by omega), Int.sign_eq_one_of_pos hpositive]
      omega
  · intro hexact
    rw [happly, span_ofMillis_eq h hexact]
    split <;> omega
  · intro place parent fits hsource
    rw [Literal.ofJson, Literal.ofNumber, hsource]
    rfl
  · intro now
    have hequals : (Datum.elapsed start (start + m)).equals now
        (.duration (ofMillis (Binary64.ofInt m))) = (some (compare (start + m)
          ((ofMillis (Binary64.ofInt m)).apply start)) == some Ordering.eq) := rfl
    rw [hequals, beq_iff_eq, Option.some.injEq, compare_eq_iff_eq]
    exact eq_comm

theorem second_and_a_half_reaches : InCalendar 1500000000000 ∧
    (-1500 : Int).natAbs * unit ≤ 1000 * (ofMillis (Binary64.ofInt (-1500))).seconds.quanta ∧
    (ofMillis (Binary64.ofInt (-1500))).apply 1500000000000 = 1500000000000 + -1500 ∧
    (Datum.elapsed 1500000000000 (1500000000000 + -1500)).equals 0
      (.duration (ofMillis (Binary64.ofInt (-1500)))) = true := by
  have hstart : InCalendar 1500000000000 := by decide
  have hseconds : (-1500 : Int).natAbs * unit ≤
      1000 * (ofMillis (Binary64.ofInt (-1500))).seconds.quanta := by decide +kernel
  obtain ⟨_, hexact, _, hequals⟩ :=
    ofMillis_reaches (-1500) 1500000000000 (by decide) hstart (by decide)
  have hreaches := hexact (.inr hseconds)
  exact ⟨hstart, hseconds, hreaches, (hequals 0).2 hreaches⟩

/-- The number nearest to 1.001 is below it. -/
theorem thousand_and_one_millis_fall_short : (1001 : Int).natAbs ≤ 2 ^ 53 ∧ InCalendar 0 ∧
    InCalendar (0 + 1001) ∧ (ofMillis (Binary64.ofInt 1001)).apply 0 = 1000 ∧
    (Datum.elapsed 0 (0 + 1001)).equals 0 (.duration (ofMillis (Binary64.ofInt 1001))) = false := by
  decide +kernel

end

end Audience.Duration
