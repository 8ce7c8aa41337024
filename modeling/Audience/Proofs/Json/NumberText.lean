import Mathlib.Data.Nat.Digits.Defs
import Audience.Json.Text
import Audience.Json.Token
import Audience.Proofs.Numeric.Positional
import Audience.Proofs.Numeric.Reread

/-!
# Numbers read from their text

The text of a number keeps to the grammar of numbers. An integer is read from it as it is. A real number
is read from its digits and its exponent, with the roundings of a reader.

* **`Json.Number.Spelling.chars`**, **`Json.numberSpelling?_chars`**: what a spelling looks like, and that
  it is read as the spelling.
* **`Json.Number.ofSpelling?_eq`**: the significand and the exponent of a spelling that is not whole.
* **`Json.Number.reread`**: what comes back of a number. **`Json.Number.exists_spelling`**: its text
  spells that. **`Json.wordToken?_text`**: and it is a word.
-/

namespace Audience.Json

/-! ### Spellings -/

/-- The sign of a number. -/
def signChars (negative : Bool) : List Char := if negative then ['-'] else []

/-- A point and the places behind it. -/
def fractionChars (fraction : Option (List Char)) : List Char := (fraction.map ('.' :: ·)).getD []

/-- An exponent behind its mark. -/
def exponentChars (exponent : Option (Bool × List Char)) : List Char :=
  (exponent.map fun shift => 'e' :: (signChars shift.1 ++ shift.2)).getD []

namespace Number.Spelling

/-- The text of a spelling. -/
def chars (s : Spelling) : List Char :=
  signChars s.negative ++ (s.whole ++ (fractionChars s.fraction ++ exponentChars s.exponent))

/-- Only rows of digits stand in the spelling, none of them empty, and the first one starts with a zero
only if it is one. -/
structure IsProper (s : Spelling) : Prop where
  leads : Text.NoLeadingZero s.whole
  whole : ∀ c ∈ s.whole, c.isDigit = true
  fraction : ∀ places ∈ s.fraction, places ≠ [] ∧ ∀ c ∈ places, c.isDigit = true
  exponent : ∀ shift ∈ s.exponent, shift.2 ≠ [] ∧ ∀ c ∈ shift.2, c.isDigit = true

end Number.Spelling

section

variable {row rest : List Char}

theorem minus_signChars (negative : Bool) (h : ∀ c ∈ rest.head?, c ≠ '-') :
    Lexer.minus (signChars negative ++ rest) = (negative, rest) := by
  cases negative with
  | true => rfl
  | false =>
    show Lexer.minus rest = (false, rest)
    unfold Lexer.minus
    split
    · exact absurd rfl (h '-' rfl)
    · rfl

/-- No sign stands before digits. -/
theorem head?_ne_minus (hne : row ≠ []) (h : ∀ c ∈ row, c.isDigit = true) :
    ∀ c ∈ (row ++ rest).head?, c ≠ '-' := by
  rintro c hc rfl
  rw [List.head?_append_of_ne_nil _ hne] at hc
  exact absurd (h '-' (List.mem_of_mem_head? hc)) (by decide)

theorem isEmpty_eq_false (hne : row ≠ []) : row.isEmpty = false := by
  cases row with
  | nil => exact absurd rfl hne
  | cons _ _ => rfl

/-- What ends the digits before it and is no point. -/
def EndsPlaces (rest : List Char) : Prop := ∀ c ∈ rest.head?, c.isDigit = false ∧ c ≠ '.'

theorem fraction?_fractionChars {fraction : Option (List Char)}
    (h : ∀ places ∈ fraction, places ≠ [] ∧ ∀ c ∈ places, c.isDigit = true) (hrest : EndsPlaces rest) :
    Lexer.fraction? (fractionChars fraction ++ rest) = some (fraction, rest) := by
  cases fraction with
  | none =>
    show Lexer.fraction? rest = some (none, rest)
    unfold Lexer.fraction?
    split
    · exact absurd rfl (hrest '.' rfl).2
    · rfl
  | some places =>
    obtain ⟨hne, hdigits⟩ := h places rfl
    have hspan : Lexer.digits (places ++ rest) = (places, rest) :=
      Text.span_append hdigits fun c hc => (hrest c hc).1
    show Lexer.fraction? ('.' :: (places ++ rest)) = _
    rw [Lexer.fraction?, hspan]
    simp only [isEmpty_eq_false hne, Bool.false_eq_true, if_false]

theorem exponent?_exponentChars {exponent : Option (Bool × List Char)}
    (h : ∀ shift ∈ exponent, shift.2 ≠ [] ∧ ∀ c ∈ shift.2, c.isDigit = true) :
    Lexer.exponent? (exponentChars exponent) = some (exponent, []) := by
  cases exponent with
  | none => rfl
  | some shift =>
    obtain ⟨down, places⟩ := shift
    obtain ⟨hne, hdigits⟩ := h (down, places) rfl
    have hspan : Lexer.digits places = (places, []) := by
      have happend : Lexer.digits (places ++ []) = (places, []) := Text.span_append hdigits nofun
      rwa [List.append_nil] at happend
    have hminus : Lexer.minus (signChars down ++ places) = (down, places) :=
      minus_signChars down (List.append_nil places ▸ head?_ne_minus hne hdigits)
    -- no plus sign is written
    have hsign : ∀ shifted, signChars down ++ places ≠ '+' :: shifted := by
      intro shifted heq
      cases down with
      | true => cases heq
      | false =>
        have hplus : '+' ∈ signChars false ++ places := by
          rw [heq]
          exact List.mem_cons_self
        exact absurd (hdigits '+' hplus) (by decide)
    show Lexer.exponent? ('e' :: (signChars down ++ places)) = _
    rw [Lexer.exponent?]
    · simp only [decide_true, Bool.true_or, if_true, hminus, hspan, isEmpty_eq_false hne,
        Bool.false_eq_true, if_false]
    · exact hsign

end

/-- A proper spelling is read from its text. -/
theorem numberSpelling?_chars {s : Number.Spelling} (h : s.IsProper) :
    Lexer.numberSpelling? s.chars = some s := by
  obtain ⟨negative, whole, fraction, exponent⟩ := s
  obtain ⟨hleads, hwhole, hfraction, hexponent⟩ := h
  dsimp only at hleads hwhole hfraction hexponent
  have hne := hleads.ne_nil
  have hguard : (decide (whole = ['0']) || !whole.isEmpty && whole.head? != some '0') = true := by
    rcases hleads with h | ⟨-, hhead⟩
    · simp [h]
    · simp [hne, hhead]
  have hends : EndsPlaces (exponentChars exponent) := by
    intro c hc
    cases exponent with
    | none => cases hc
    | some shift =>
      cases hc
      decide
  have hmark : ∀ c ∈ (fractionChars fraction ++ exponentChars exponent).head?, c.isDigit = false := by
    intro c hc
    cases fraction with
    | none => exact (hends c hc).1
    | some places =>
      cases hc
      decide
  have hspan : Lexer.digits (whole ++ (fractionChars fraction ++ exponentChars exponent)) =
      (whole, fractionChars fraction ++ exponentChars exponent) := Text.span_append hwhole hmark
  rw [Lexer.numberSpelling?, Number.Spelling.chars]
  simp only [minus_signChars negative (head?_ne_minus hne hwhole), hspan, hguard,
    fraction?_fractionChars hfraction hends, exponent?_exponentChars hexponent, guard, if_true,
    List.isEmpty_nil, Option.bind_eq_bind, Option.bind_some, Option.pure_def]

/-! ### What spellings denote -/

namespace Number

open Text

theorem gather_eq {start : Nat} {row : List Char} (h : digitsValue start row < 2 ^ 64) :
    gather start row = (digitsValue start row, []) := by
  induction row generalizing start with
  | nil => rfl
  | cons c rest ih =>
    have hnext : digitsValue start [c] < 2 ^ 64 :=
      Nat.lt_of_le_of_lt (le_digitsValue (digitsValue start [c]) rest) h
    have hrest : gather (digitsValue start [c]) rest = _ := ih h
    rw [gather]
    simp only [hnext, if_true, hrest]
    rfl

/-- The digits of a number that shows to be real are its significand, and the exponent moves the
point. -/
theorem ofSpelling?_eq {s : Spelling} (hreal : s.fraction ≠ none ∨ s.exponent ≠ none)
    (h : digitsValue 0 (s.whole ++ s.fraction.getD []) < 2 ^ 64) :
    ofSpelling? s = withExponent? s.negative (digitsValue 0 (s.whole ++ s.fraction.getD []))
      (-((s.fraction.getD []).length : Int)) s.exponent := by
  obtain ⟨negative, whole, fraction, exponent⟩ := s
  dsimp only at *
  rw [digitsValue_append] at h ⊢
  have hwhole : gather 0 whole = (digitsValue 0 whole, []) :=
    gather_eq (Nat.lt_of_le_of_lt (le_digitsValue _ _) h)
  cases fraction with
  | none =>
    cases exponent with
    | none => exact absurd hreal (by simp)
    | some shift =>
      rw [ofSpelling?]
      simp only [hwhole, List.isEmpty_nil, Option.isNone_some, Bool.and_false, Bool.false_eq_true,
        if_false, List.length_nil, Option.getD_none, Int.natCast_zero, Int.neg_zero, digitsValue,
        List.foldl_nil]
  | some places =>
    have hplaces : gather (digitsValue 0 whole) places = _ := gather_eq h
    rw [ofSpelling?]
    simp only [hwhole, hplaces, List.length_nil, Option.getD_some, Int.natCast_zero, Int.sub_zero,
      Int.zero_sub]

/-- What comes back of a number from its text: an integer as it is, a real number with the roundings of a
reader. -/
def reread : Number → Number
  | integer value fits => .integer value fits
  | real negative size => .real negative size.reread

/-- The number is an integer or short. -/
def IsShort : Number → Prop
  | integer _ _ => True
  | real _ size => size.IsShort

theorem reread_eq_self {value : Number} (h : value.IsShort) : value.reread = value := by
  cases value with
  | integer _ _ => rfl
  | real negative size => rw [reread, Magnitude.reread_eq_self h]

theorem toList_toString_ofNat (n : Nat) : (toString (Int.ofNat n)).toList = Nat.toDigits 10 n := by
  show (Nat.repr n).toList = _
  rw [Nat.repr, String.toList_ofList]

theorem toList_toString_negSucc (n : Nat) :
    (toString (Int.negSucc n)).toList = '-' :: Nat.toDigits 10 (n + 1) := by
  show ("-" ++ Nat.repr (n + 1)).toList = _
  rw [String.toList_append, Nat.repr, String.toList_ofList]
  simp

/-- The digits of an integer behind its sign. -/
theorem exists_spelling_integer {value : Int} (fits : -(2 ^ 63) ≤ value ∧ value < 2 ^ 64) :
    ∃ s : Spelling, s.IsProper ∧ s.chars = (toString value).toList ∧
      ofSpelling? s = some (.integer value fits) := by
  have hproper : ∀ negative n, (Spelling.mk negative (Nat.toDigits 10 n) none none).IsProper :=
    fun negative n => ⟨noLeadingZero_toDigits n, fun _ => isDigit_of_mem_toDigits,
      fun _ h => absurd h (Option.not_mem_none _), fun _ h => absurd h (Option.not_mem_none _)⟩
  have hread : ∀ negative n, n < 2 ^ 64 →
      ofSpelling? ⟨negative, Nat.toDigits 10 n, none, none⟩ = ofSignificand? negative n := by
    intro negative n hn
    have hgather : gather 0 (Nat.toDigits 10 n) = (n, []) := by
      rw [gather_eq (by rwa [digitsValue_toDigits]), digitsValue_toDigits]
    rw [ofSpelling?]
    simp only [hgather, List.isEmpty_nil, Option.isNone_none, Bool.and_true, if_true]
  cases value with
  | ofNat n =>
    refine ⟨⟨false, Nat.toDigits 10 n, none, none⟩, hproper _ _, ?_, ?_⟩
    · rw [toList_toString_ofNat]
      simp [Spelling.chars, signChars, fractionChars, exponentChars]
    · have hint : ofInt? (n : Int) = some (.integer (Int.ofNat n) fits) := dif_pos fits
      rw [hread _ _ (Int.ofNat_lt.1 fits.2), ofSignificand?]
      simp [hint]
  | negSucc n =>
    refine ⟨⟨true, Nat.toDigits 10 (n + 1), none, none⟩, hproper _ _, ?_, ?_⟩
    · rw [toList_toString_negSucc]
      simp [Spelling.chars, signChars, fractionChars, exponentChars]
    · have hint : ofInt? (-((n + 1 : Nat) : Int)) = some (.integer (Int.negSucc n) fits) := dif_pos fits
      rw [hread _ _ (by have := fits.1; omega), ofSignificand?]
      simp only [Nat.add_one_ne_zero, decide_false, Bool.and_false, Bool.false_eq_true, if_false,
        if_true, hint]
      simp

/-- The places behind a point, if there are any. -/
def placesOf : List Char → Option (List Char)
  | [] => none
  | place :: places => some (place :: places)

theorem fractionChars_placesOf (places : List Char) :
    fractionChars (placesOf places) = Decimal.pointed places := by
  cases places <;> rfl

theorem getD_placesOf (places : List Char) : (placesOf places).getD [] = places := by
  cases places <;> rfl

theorem of_mem_placesOf {places found : List Char} (h : found ∈ placesOf places) :
    found ≠ [] ∧ found = places := by
  cases places with
  | nil => cases h
  | cons place places =>
    cases h
    exact ⟨List.cons_ne_nil _ _, rfl⟩

variable {x : Decimal}

/-- The spelling is that of the text of a sign and a decimal, and denotes what a reader makes of the
decimal that it takes from there. -/
def Spells (negative : Bool) (x : Decimal) (s : Spelling) : Prop :=
  s.IsProper ∧ s.chars = signChars negative ++ decimalText x ∧
    ofSpelling? s = x.taken.read?.map (real negative)

theorem withExponent?_some {significand : Nat} {start : Int} {shift : Int} (negative : Bool)
    (hshift : shift.natAbs < 2 ^ 31) :
    withExponent? negative significand start (some (decide (shift < 0), Decimal.natText shift.natAbs)) =
      ofParts? negative significand (start + shift) := by
  have hexponent : (if shift < 0 then start - shift.natAbs else start + shift.natAbs) =
      start + shift := by
    split <;> omega
  rw [withExponent?, Decimal.natText, digitsValue_toDigits]
  simp only [hshift, if_true, decide_eq_true_eq, hexponent]

/-- With an exponent. -/
theorem exists_spelling_scientific (negative : Bool) (hdigits : x.digits < 2 ^ 64)
    (hexponent : x.exponent.natAbs < 2 ^ 30) (h : x.point ≤ -5 ∨ 16 < x.point) :
    ∃ s, Spells negative x s := by
  have htext : decimalText x = x.scientific := if_pos h
  have htaken : x.taken = x := by
    rw [Decimal.taken, if_neg]
    rintro ⟨hnonneg, hpoint⟩
    rw [Decimal.point] at *
    omega
  have hdigit : ∀ c ∈ Decimal.natText x.digits, c.isDigit = true := fun _ => isDigit_of_mem_toDigits
  obtain ⟨first, others, hrow⟩ : ∃ first others, Decimal.natText x.digits = first :: others :=
    List.exists_cons_of_ne_nil Nat.toDigits_ne_nil
  have hvalue : digitsValue 0 ([first] ++ (placesOf others).getD []) = x.digits := by
    rw [getD_placesOf, List.singleton_append, ← hrow, Decimal.natText, digitsValue_toDigits]
  have hlength : (Decimal.natText x.digits).length ≤ 20 :=
    Nat.toDigits_length 10 x.digits 20 (by decide) (Nat.lt_trans hdigits (by decide))
  rw [hrow, List.length_cons] at hlength
  have hpoint : x.point = others.length + 1 + x.exponent := by
    rw [Decimal.point, hrow, List.length_cons]
    rfl
  refine ⟨⟨negative, [first], placesOf others,
    some (decide (x.point - 1 < 0), Decimal.natText (x.point - 1).natAbs)⟩, ⟨?_, ?_, ?_, ?_⟩, ?_, ?_⟩
  · by_cases hzero : first = '0'
    · exact .inl (by rw [hzero])
    · exact .inr ⟨List.cons_ne_nil _ _, fun heq => hzero (Option.some.inj heq)⟩
  · intro c hc
    rw [List.mem_singleton] at hc
    exact hdigit c (hrow ▸ hc ▸ List.mem_cons_self)
  · intro places hplaces
    obtain ⟨hne, rfl⟩ := of_mem_placesOf hplaces
    exact ⟨hne, fun c hc => hdigit c (hrow ▸ List.mem_cons_of_mem _ hc)⟩
  · intro shift hshift
    cases hshift
    exact ⟨Nat.toDigits_ne_nil, fun _ => isDigit_of_mem_toDigits⟩
  · rw [htext, Decimal.scientific]
    simp only [Spelling.chars, fractionChars_placesOf, exponentChars, Option.map_some, Option.getD_some,
      signChars, hrow, List.take_succ_cons, List.take_zero, List.drop_succ_cons, List.drop_zero,
      decide_eq_true_eq, List.append_assoc]
  · have hexponent : -(((placesOf others).getD []).length : Int) + (x.point - 1) = x.exponent := by
      rw [getD_placesOf]
      omega
    rw [htaken, ofSpelling?_eq (.inr (Option.some_ne_none _)) (by rwa [hvalue])]
    dsimp only
    rw [hvalue, withExponent?_some negative (by omega), hexponent, Decimal.ofParts?_eq]

/-- With a point among the digits or before them. -/
theorem exists_spelling_places (negative : Bool) (hdigits : x.digits < 2 ^ 64)
    (hneg : x.exponent < 0) (h : ¬ (x.point ≤ -5 ∨ 16 < x.point)) : ∃ s, Spells negative x s := by
  obtain ⟨whole, places, hsplit⟩ := Decimal.exists_split_of_neg hneg
  have htext : decimalText x = x.positional := by
    rw [decimalText, if_neg h, if_pos hneg]
  have htaken : x.taken = x := by
    rw [Decimal.taken, if_neg]
    rintro ⟨hnonneg, -⟩
    omega
  have hvalue : digitsValue 0 (whole ++ places) = x.digits := by
    rw [hsplit.value_eq, show x.exponent.toNat = 0 by omega, Nat.pow_zero, Nat.mul_one]
  have hplaces : places ≠ [] := by
    rintro rfl
    have hlength := hsplit.length_places
    rw [List.length_nil] at hlength
    omega
  have hexponent : -(places.length : Int) = x.exponent := by
    rw [hsplit.length_places]
    omega
  refine ⟨⟨negative, whole, some places, none⟩, ⟨hsplit.whole_leads, ?_, ?_,
    fun _ h => absurd h (Option.not_mem_none _)⟩, ?_, ?_⟩
  · exact fun c hc => hsplit.isDigit c (List.mem_append_left _ hc)
  · intro found hfound
    cases hfound
    exact ⟨hplaces, fun c hc => hsplit.isDigit c (List.mem_append_right _ hc)⟩
  · have hpointed : fractionChars (some places) = Decimal.pointed places := by
      cases places with
      | nil => exact absurd rfl hplaces
      | cons place places => rfl
    rw [htext, hsplit.text]
    simp only [Spelling.chars, hpointed, exponentChars, Option.map_none, Option.getD_none,
      List.append_nil]
  · rw [htaken, ofSpelling?_eq (.inl (Option.some_ne_none _)) (by
      rw [Option.getD_some, hvalue]
      exact hdigits)]
    dsimp only
    rw [Option.getD_some, hvalue, hexponent, withExponent?, Decimal.ofParts?_eq]

/-- With a zero behind the point. -/
theorem exists_spelling_whole (negative : Bool) (hnonneg : 0 ≤ x.exponent)
    (h : ¬ (x.point ≤ -5 ∨ 16 < x.point)) : ∃ s, Spells negative x s := by
  obtain ⟨whole, hsplit⟩ := Decimal.exists_split_of_nonneg hnonneg
  have htext : decimalText x = x.positional ++ ['.', '0'] := by
    rw [decimalText, if_neg h, if_neg (by omega)]
  have htaken : x.taken = ⟨x.digits * 10 ^ (x.exponent.toNat + 1), -1⟩ := if_pos ⟨hnonneg, by omega⟩
  have hwhole : whole ++ [] = whole := List.append_nil _
  have hvalue : digitsValue 0 (whole ++ ['0']) = x.digits * 10 ^ (x.exponent.toNat + 1) := by
    have hzero : digitsValue 0 (whole ++ List.replicate 1 '0') = _ := digitsValue_append_zeros
    have heq := hsplit.value_eq
    rw [hwhole] at heq
    rw [heq, Nat.mul_assoc, ← Nat.pow_add] at hzero
    exact hzero
  have hsmall : digitsValue 0 (whole ++ ['0']) < 2 ^ 64 := by
    rw [hvalue]
    exact Nat.lt_of_le_of_lt (Decimal.digits_taken_le hnonneg (by omega)) (by decide)
  refine ⟨⟨negative, whole, some ['0'], none⟩, ⟨hsplit.whole_leads, ?_, ?_,
    fun _ h => absurd h (Option.not_mem_none _)⟩, ?_, ?_⟩
  · exact fun c hc => hsplit.isDigit c (List.mem_append_left _ hc)
  · intro found hfound
    cases hfound
    exact ⟨List.cons_ne_nil _ _, List.all_eq_true.1 rfl⟩
  · rw [htext, hsplit.text, Decimal.pointed, hwhole]
    simp only [Spelling.chars, fractionChars, exponentChars, Option.map_some, Option.map_none,
      Option.getD_some, Option.getD_none, List.append_nil]
  · rw [htaken, ofSpelling?_eq (.inl (Option.some_ne_none _)) hsmall]
    dsimp only
    rw [Option.getD_some, hvalue, withExponent?]
    exact Decimal.ofParts?_eq negative ⟨x.digits * 10 ^ (x.exponent.toNat + 1), -1⟩

/-- The text of a number spells what comes back of it. -/
theorem exists_spelling (value : Number) : ∃ s : Spelling, s.IsProper ∧ s.chars = value.text.toList ∧
    ofSpelling? s = some value.reread := by
  cases value with
  | integer value fits => exact exists_spelling_integer fits
  | real negative size =>
    have hdigits : size.shortest.digits < 2 ^ 64 :=
      Nat.lt_of_le_of_lt size.digits_shortest_le (by decide)
    have hbounds := size.exponent_shortest_bounds
    obtain ⟨s, hproper, hchars, hread⟩ : ∃ s, Spells negative size.shortest s := by
      by_cases hpoint : size.shortest.point ≤ -5 ∨ 16 < size.shortest.point
      · exact exists_spelling_scientific negative hdigits (by omega) hpoint
      · rcases Int.lt_or_le size.shortest.exponent 0 with hneg | hnonneg
        · exact exists_spelling_places negative hdigits hneg hpoint
        · exact exists_spelling_whole negative hnonneg hpoint
    rw [size.read?_taken] at hread
    refine ⟨s, hproper, ?_, hread⟩
    rw [hchars, text, String.toList_ofList]
    rfl

end Number

/-! ### Words -/

theorem isWordChar_of_isDigit {c : Char} (h : c.isDigit = true) : Lexer.isWordChar c = true := by
  simp [Lexer.isWordChar, Char.isAlphanum, h]

theorem isWordChar_of_mem_signChars {negative : Bool} {c : Char} (h : c ∈ signChars negative) :
    Lexer.isWordChar c = true := by
  cases negative with
  | true =>
    rw [List.mem_singleton.1 h]
    decide
  | false => cases h

namespace Number

/-- The text of a proper spelling is a word. -/
theorem Spelling.IsProper.isWordChar {s : Spelling} (h : s.IsProper) :
    ∀ c ∈ s.chars, Lexer.isWordChar c = true := by
  obtain ⟨negative, whole, fraction, exponent⟩ := s
  intro c hc
  simp only [chars, List.mem_append] at hc
  rcases hc with hc | hc | hc | hc
  · exact isWordChar_of_mem_signChars hc
  · exact isWordChar_of_isDigit (h.whole c hc)
  · cases fraction with
    | none => cases hc
    | some places =>
      rcases List.mem_cons.1 hc with rfl | hc
      · decide
      · exact isWordChar_of_isDigit ((h.fraction places rfl).2 c hc)
  · cases exponent with
    | none => cases hc
    | some shift =>
      rcases List.mem_cons.1 hc with rfl | hc
      · decide
      · rcases List.mem_append.1 hc with hc | hc
        · exact isWordChar_of_mem_signChars hc
        · exact isWordChar_of_isDigit ((h.exponent shift rfl).2 c hc)

end Number

/-- No literal name spells a number. -/
theorem wordToken?_of_numberSpelling? {word : List Char} {s : Number.Spelling}
    (h : Lexer.numberSpelling? word = some s) :
    Lexer.wordToken? word = some (.number (Number.ofSpelling? s)) := by
  have hname : ∀ name, Lexer.numberSpelling? name = none → word ≠ name := by
    rintro name hnone rfl
    rw [hnone] at h
    cases h
  rw [Lexer.wordToken?, if_neg (hname _ (by rfl)), if_neg (hname _ (by rfl)),
    if_neg (hname _ (by rfl)), h, Option.map_some]

/-- The text of a number is a word that stands for what comes back of the number. -/
theorem wordToken?_text (value : Number) :
    Lexer.wordToken? value.text.toList = some (.number (some value.reread)) ∧
      ∀ c ∈ value.text.toList, Lexer.isWordChar c = true := by
  obtain ⟨s, hproper, hchars, hread⟩ := value.exists_spelling
  rw [← hchars]
  refine ⟨?_, hproper.isWordChar⟩
  rw [wordToken?_of_numberSpelling? (numberSpelling?_chars hproper), hread]

end Audience.Json
