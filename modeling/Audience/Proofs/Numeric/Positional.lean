import Audience.Proofs.Numeric.Shortest
import Audience.Proofs.Text.Digits

/-!
# Positional text reads back

* **`Decimal.Split`**: the digits before the point and the places behind it, with what they are worth.
* **`Decimal.exists_split`**: positional text is split by its point, and is worth the decimal.
-/

namespace Audience.Decimal

/-- The digits before the point and behind it of the positional text of a decimal. -/
structure Split (x : Decimal) (whole places : List Char) : Prop where
  text : x.positional = whole ++ pointed places
  whole_leads : Text.NoLeadingZero whole
  isDigit : ∀ c ∈ whole ++ places, c.isDigit = true
  length_places : places.length = (-x.exponent).toNat
  value_eq : Text.digitsValue 0 (whole ++ places) = x.digits * 10 ^ x.exponent.toNat

variable {x : Decimal} {whole places : List Char}

theorem nearest?_no_places {digits : Nat} :
    nearest? ⟨digits, -(([] : List Char).length : Int)⟩ = Magnitude.nearest? digits 1 := by
  show nearest? ⟨digits, (0 : Nat)⟩ = _
  rw [nearest?_ofNat, Nat.pow_zero, Nat.mul_one]

/-- What stands before and behind the point is worth the decimal. -/
theorem Split.nearest?_eq (h : Split x whole places) :
    nearest? ⟨Text.digitsValue 0 (whole ++ places), -(places.length : Int)⟩ = x.nearest? := by
  rw [Decimal.nearest?_eq, Decimal.nearest?_eq]
  dsimp only
  rw [Int.toNat_neg_natCast, Int.neg_neg, Int.toNat_natCast, h.length_places, h.value_eq, Nat.pow_zero,
    Nat.mul_one]

/-- Without places there is no point, and zeros stand for the exponent. -/
theorem exists_split_of_nonneg (h : 0 ≤ x.exponent) : ∃ whole, Split x whole [] := by
  obtain ⟨digits, exponent⟩ := x
  obtain ⟨zeros, rfl⟩ := Int.eq_ofNat_of_zero_le h
  have htext : positional ⟨digits, zeros⟩ =
      if digits = 0 then natText digits else natText digits ++ List.replicate zeros '0' := by
    rw [positional, if_pos h]
    rfl
  have hlength : 0 = (-(zeros : Int)).toNat := by omega
  by_cases hzero : digits = 0
  · subst hzero
    refine ⟨natText 0, ?_, Text.noLeadingZero_toDigits 0, ?_, hlength, ?_⟩
    · rw [htext, if_pos rfl]
      exact (List.append_nil _).symm
    · intro c hc
      rw [List.append_nil] at hc
      exact Text.isDigit_of_mem_toDigits hc
    · rw [List.append_nil, natText, Text.digitsValue_toDigits, Nat.zero_mul]
  · refine ⟨natText digits ++ List.replicate zeros '0', ?_, .inr ⟨?_, ?_⟩, ?_, hlength, ?_⟩
    · rw [htext, if_neg hzero]
      exact (List.append_nil _).symm
    · exact List.append_ne_nil_of_left_ne_nil Nat.toDigits_ne_nil _
    · rw [natText, List.head?_append_of_ne_nil _ Nat.toDigits_ne_nil]
      exact Text.head?_toDigits hzero
    · intro c hc
      rw [List.append_nil, List.mem_append] at hc
      exact hc.elim Text.isDigit_of_mem_toDigits Text.isDigit_of_mem_zeros
    · rw [List.append_nil, Text.digitsValue_append_zeros, natText, Text.digitsValue_toDigits]
      rfl

/-- The digits before the point start with no zero, unless nothing else stands there. -/
theorem noLeadingZero_whole {digits count : Nat} {padded : List Char}
    (hpadded : List.replicate (count + 1 - (natText digits).length) '0' ++ natText digits = padded) :
    Text.NoLeadingZero (padded.take (padded.length - count)) := by
  subst hpadded
  rcases Nat.lt_or_ge count (natText digits).length with hlong | hshort
  · rw [Nat.sub_eq_zero_of_le hlong, List.replicate_zero, List.nil_append]
    rcases Text.noLeadingZero_toDigits digits with hzero | ⟨hne, hhead⟩
    · have hnone : count = 0 := by
        rw [natText, hzero, List.length_singleton] at hlong
        omega
      rw [hnone, Nat.sub_zero, List.take_length]
      exact .inl hzero
    · refine .inr ⟨?_, ?_⟩
      · rw [Ne, List.take_eq_nil_iff, not_or]
        exact ⟨by omega, hne⟩
      · rw [List.head?_take, if_neg (by omega)]
        exact hhead
  · have hlength : (List.replicate (count + 1 - (natText digits).length) '0' ++ natText digits).length -
        count = 1 := by
      rw [List.length_append, List.length_replicate]
      omega
    obtain ⟨zeros, hzeros⟩ : ∃ zeros, count + 1 - (natText digits).length = zeros + 1 :=
      ⟨count - (natText digits).length, by omega⟩
    rw [hlength, hzeros, List.replicate_succ, List.cons_append]
    exact .inl rfl

/-- With places, zeros before the digits see to it that one digit stands before the point. -/
theorem exists_split_of_neg (h : x.exponent < 0) : ∃ whole places, Split x whole places := by
  obtain ⟨digits, exponent⟩ := x
  obtain ⟨count, rfl⟩ : ∃ count : Nat, exponent = -(count : Int) :=
    ⟨exponent.natAbs, by simp only at h; omega⟩
  have hcount : 0 < count := by simp only at h; omega
  have hnat : (- -(count : Int)).toNat = count := by omega
  generalize hpadded :
    List.replicate (count + 1 - (natText digits).length) '0' ++ natText digits = padded
  have hlength : count + 1 ≤ padded.length := by
    rw [← hpadded, List.length_append, List.length_replicate]
    omega
  have hplaces : (padded.drop (padded.length - count)).length = count := by
    rw [List.length_drop]
    omega
  have htext : positional ⟨digits, -(count : Int)⟩ =
      padded.take (padded.length - count) ++ '.' :: padded.drop (padded.length - count) := by
    rw [positional, if_neg (by show ¬ 0 ≤ -(count : Int); omega)]
    simp only [hnat, hpadded]
  refine ⟨padded.take (padded.length - count), padded.drop (padded.length - count), ?_,
    noLeadingZero_whole hpadded, ?_, ?_, ?_⟩
  · rw [htext]
    cases hdrop : padded.drop (padded.length - count) with
    | nil =>
      rw [hdrop] at hplaces
      exact absurd hplaces (Nat.ne_of_lt hcount)
    | cons place places => rfl
  · rw [List.take_append_drop, ← hpadded]
    intro c hc
    rw [List.mem_append] at hc
    exact hc.elim Text.isDigit_of_mem_zeros Text.isDigit_of_mem_toDigits
  · rw [hplaces, hnat]
  · rw [List.take_append_drop, ← hpadded, Text.digitsValue_zeros_append, natText,
      Text.digitsValue_toDigits, Int.toNat_neg_natCast, Nat.pow_zero, Nat.mul_one]

theorem exists_split (x : Decimal) : ∃ whole places, Split x whole places := by
  rcases Int.lt_or_le x.exponent 0 with h | h
  · exact exists_split_of_neg h
  · obtain ⟨whole, hsplit⟩ := exists_split_of_nonneg h
    exact ⟨whole, [], hsplit⟩

end Audience.Decimal
