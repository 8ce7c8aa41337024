import Audience.Duration.Text
import Audience.Proofs.Numeric.Closest
import Audience.Proofs.Numeric.Positional

/-!
# Amounts as they are written

An amount is written in decimal digits, with a point or comma among or after them, and a mark behind it
tells its unit.

* **`Duration.Numeral`**: the written amounts, **`Duration.Numeral.chars`** their characters.
* **`Duration.Numeral.number?_chars`**, **`Duration.Numeral.exists_of_number?`**: written amounts are
  what is read in front of a mark, and nothing else is. **`Duration.Numeral.append_inj`**: a text starts
  with one of them at most.
* **`Duration.Numeral.Denotes`**, **`Duration.Numeral.denotes_iff`**: the magnitude that a written
  amount stands for is the one that is read.
-/

namespace Audience.Duration

/-- A character that ends an amount. -/
structure Ends (mark : Char) : Prop where
  isDecimalDigit : Text.isDecimalDigit mark = false
  ne_point : mark ≠ '.'
  ne_comma : mark ≠ ','

instance (mark : Char) : Decidable (Ends mark) :=
  decidable_of_iff (Text.isDecimalDigit mark = false ∧ mark ≠ '.' ∧ mark ≠ ',')
    ⟨fun h => ⟨h.1, h.2.1, h.2.2⟩, fun h => ⟨h.isDecimalDigit, h.ne_point, h.ne_comma⟩⟩

/-- The text does not start with a digit. -/
def NoDigitAhead (text : List Char) : Prop := ∀ c ∈ text.head?, Text.isDecimalDigit c = false

theorem NoDigitAhead.nil : NoDigitAhead [] := nofun

theorem NoDigitAhead.cons {c : Char} {rest : List Char} (h : Text.isDecimalDigit c = false) :
    NoDigitAhead (c :: rest) := by
  intro first hfirst
  rwa [← Option.some.inj hfirst]

/-- Decimal digits of any script. -/
abbrev Digits := { digits : List Char // ∀ c ∈ digits, Text.isDecimalDigit c = true }

/-- What stands between digits and decimal places. -/
inductive Separator
  | point
  | comma
  deriving DecidableEq

/-- The character of a separator. -/
def Separator.char : Separator → Char
  | point => '.'
  | comma => ','

/-- An amount as it is written: one digit or more, and perhaps a separator and further digits. -/
structure Numeral where
  whole : Digits
  whole_ne_nil : whole.1 ≠ []
  fraction : Option (Separator × Digits)

namespace Numeral

/-- The characters behind the whole digits. -/
def fractionChars : Option (Separator × Digits) → List Char
  | none => []
  | some (separator, digits) => separator.char :: digits.1

/-- The characters of an amount. -/
def chars (n : Numeral) : List Char := n.whole.1 ++ fractionChars n.fraction

/-- The decimal places. -/
def places (n : Numeral) : List Char := (n.fraction.map fun fraction => fraction.2.1).getD []

/-- All digits. -/
def digits (n : Numeral) : List Char := n.whole.1 ++ n.places

variable {n n' : Numeral} {mark mark' : Char} {rest rest' whole places : List Char}

/-! ### Reading what is written -/

theorem fractionChars_injective : Function.Injective fractionChars := by
  intro first second h
  match first, second with
  | none, none => rfl
  | none, some (separator, digits) => cases h
  | some (separator, digits), none => cases h
  | some (separator, digits), some (separator', digits') =>
    obtain ⟨hseparator, hdigits⟩ := List.cons.inj h
    have hsame : separator = separator' := by
      cases separator <;> cases separator' <;> first | rfl | exact absurd hseparator (by decide)
    rw [hsame, Subtype.ext hdigits]

/-- Behind digits comes a separator or a mark, which are none. -/
theorem noDigitAhead_fraction (hmark : Ends mark) (fraction : Option (Separator × Digits))
    (rest : List Char) : NoDigitAhead (fractionChars fraction ++ mark :: rest) := by
  match fraction with
  | none => exact .cons hmark.isDecimalDigit
  | some (.point, digits) | some (.comma, digits) => exact .cons (by decide)

theorem number?_chars (hmark : Ends mark) : number? (n.chars ++ mark :: rest) =
    some ((n.whole.1, n.places), mark :: rest) := by
  obtain ⟨⟨whole, hwhole⟩, hne, fraction⟩ := n
  have hempty : whole.isEmpty = false := by simpa using hne
  have hspan := Text.span_append hwhole (noDigitAhead_fraction hmark fraction rest)
  unfold number?
  rw [chars, List.append_assoc, hspan]
  match fraction with
  | none => simp [fractionChars, places, hempty, hmark.ne_point, hmark.ne_comma]
  | some (separator, ⟨digits, hdigits⟩) =>
    have hspan : (digits ++ mark :: rest).span Text.isDecimalDigit = (digits, mark :: rest) :=
      Text.span_append hdigits (NoDigitAhead.cons hmark.isDecimalDigit)
    have hseparator : (separator.char = '.' || separator.char = ',') = true := by
      cases separator <;> rfl
    simp only [fractionChars, places, hempty, hspan, hseparator, List.cons_append, Bool.false_eq_true,
      if_false, if_true, Option.map_some, Option.getD_some]

/-- A text starts with one amount at most, and one mark behind it. -/
theorem append_inj (hmark : Ends mark) (hmark' : Ends mark')
    (h : n.chars ++ mark :: rest = n'.chars ++ mark' :: rest') :
    n = n' ∧ mark = mark' ∧ rest = rest' := by
  have hread : number? (n.chars ++ mark :: rest) = some ((n.whole.1, n.places), mark :: rest) :=
    number?_chars hmark
  rw [h, number?_chars hmark'] at hread
  obtain ⟨hdigits, hrest⟩ := Prod.mk.inj (Option.some.inj hread)
  rw [hrest] at h
  have hchars := List.append_cancel_right h
  obtain ⟨whole, hne, fraction⟩ := n
  obtain ⟨whole', hne', fraction'⟩ := n'
  have hwhole : whole' = whole := Subtype.ext (Prod.mk.inj hdigits).1
  subst hwhole
  obtain rfl : fraction = fraction' := fractionChars_injective (List.append_cancel_left hchars)
  obtain ⟨hmarks, hrests⟩ := List.cons.inj hrest
  exact ⟨rfl, hmarks.symm, hrests.symm⟩

theorem number?_eq_none (h : NoDigitAhead rest) : number? rest = none := by
  have hempty : ∀ c ∈ ([] : List Char), Text.isDecimalDigit c = true := nofun
  have hspan : rest.span Text.isDecimalDigit = ([], rest) := Text.span_append hempty h
  rw [number?, hspan]
  rfl

/-- The digits at the front of a text. -/
theorem exists_digits (text : List Char) : ∃ (digits : Digits) (rest : List Char),
    text = digits.1 ++ rest ∧ text.span Text.isDecimalDigit = (digits.1, rest) := by
  refine ⟨⟨text.takeWhile Text.isDecimalDigit, fun c hc => ?_⟩, text.dropWhile Text.isDecimalDigit,
    List.takeWhile_append_dropWhile.symm, List.span_eq_takeWhile_dropWhile _ _⟩
  exact List.all_eq_true.1 List.all_takeWhile c hc

/-- What is read is written there. -/
theorem exists_of_number? {text : List Char} (h : number? text = some ((whole, places), rest)) :
    ∃ n : Numeral, text = n.chars ++ rest := by
  obtain ⟨front, behind, htext, hspan⟩ := exists_digits text
  unfold number? at h
  rw [hspan] at h
  dsimp only at h
  split at h
  · cases h
  · rename_i hempty
    have hne : front.1 ≠ [] := by simpa using hempty
    cases behind with
    | nil =>
      cases h
      exact ⟨⟨front, hne, none⟩, by simp [chars, fractionChars, htext]⟩
    | cons c more =>
      dsimp only at h
      split at h
      · rename_i hseparator
        obtain ⟨digits, behind, hmore, hspan⟩ := exists_digits more
        rw [hspan] at h
        cases h
        obtain ⟨separator, rfl⟩ : ∃ separator : Separator, separator.char = c := by
          simp only [Bool.or_eq_true, decide_eq_true_eq] at hseparator
          obtain rfl | rfl := hseparator
          · exact ⟨.point, rfl⟩
          · exact ⟨.comma, rfl⟩
        exact ⟨⟨front, hne, some (separator, digits)⟩, by simp [chars, fractionChars, htext, hmore]⟩
      · cases h
        exact ⟨⟨front, hne, none⟩, by simp [chars, fractionChars, htext]⟩

/-! ### What an amount stands for -/

/-- The number that the digits spell in base ten, the separator aside. -/
def value (n : Numeral) : Nat := Text.digitsValue 0 n.digits

/-- The magnitude that an amount stands for: the one nearest to the decimal, counted in quanta, or zero
where the nearest number is too large to be one, or where the digits are not those of ASCII. -/
inductive Denotes (n : Numeral) (size : Magnitude) : Prop
  | nearest (hascii : ∀ c ∈ n.digits, c.isDigit = true)
      (h : Rounding.IsNearest (n.value * unit) (10 ^ n.places.length) size.quanta)
  | tooLarge {quanta : Nat} (hascii : ∀ c ∈ n.digits, c.isDigit = true)
      (h : Rounding.IsNearest (n.value * unit) (10 ^ n.places.length) quanta)
      (hlarge : ceiling ≤ quanta) (hzero : size = .zero)
  | notAscii {c : Char} (hmem : c ∈ n.digits) (h : c.isDigit = false) (hzero : size = .zero)

theorem nearest?_places (digits places : Nat) : Decimal.nearest? ⟨digits, -(places : Int)⟩ =
    Magnitude.nearestQuanta? (digits * unit) (10 ^ places) := by
  cases places with
  | zero => exact Decimal.nearest?_no_places
  | succ places => exact Decimal.nearest?_neg (Nat.succ_pos places)

theorem amount_of_ascii (hascii : ∀ c ∈ n.digits, c.isDigit = true) : amount n.whole.1 n.places =
    (Magnitude.nearestQuanta? (n.value * unit) (10 ^ n.places.length)).getD .zero := by
  have hall : (n.whole.1 ++ n.places).all Char.isDigit = true := List.all_eq_true.2 hascii
  rw [amount, if_pos hall, nearest?_places]
  rfl

/-- The magnitude that is read for an amount is the one that it denotes. -/
theorem denotes_amount (n : Numeral) : n.Denotes (amount n.whole.1 n.places) := by
  have hden : 0 < 10 ^ n.places.length := Nat.pow_pos (by decide)
  have hnearest : Rounding.IsNearest (n.value * unit) (10 ^ n.places.length)
      (Rounding.nearestSpaced (n.value * unit) (10 ^ n.places.length)) :=
    Rounding.isNearest_nearestSpaced hden
  by_cases hascii : ∀ c ∈ n.digits, c.isDigit = true
  · rw [amount_of_ascii hascii, Magnitude.nearestQuanta?]
    split
    · exact .nearest hascii hnearest
    · rename_i hlarge
      exact .tooLarge hascii hnearest (Nat.le_of_not_lt hlarge) rfl
  · have hall : ¬ (n.whole.1 ++ n.places).all Char.isDigit = true := by
      rwa [List.all_eq_true]
    rw [amount, if_neg hall]
    simp only [not_forall] at hascii
    obtain ⟨c, hmem, hc⟩ := hascii
    exact .notAscii hmem (Bool.eq_false_iff.2 hc) rfl

theorem Denotes.unique {size size' : Magnitude} (h : n.Denotes size) (h' : n.Denotes size') :
    size = size' := by
  have hden : 0 < 10 ^ n.places.length := Nat.pow_pos (by decide)
  cases h with
  | nearest hascii h =>
    cases h' with
    | nearest _ h' =>
      obtain ⟨quanta, _⟩ := size
      obtain ⟨quanta', _⟩ := size'
      obtain rfl : quanta = quanta' := h.unique hden h'
      rfl
    | tooLarge _ h' hlarge _ =>
      rw [← h.unique hden h'] at hlarge
      exact absurd size.representable.1 (Nat.not_lt.2 hlarge)
    | notAscii hmem hc _ => rw [hascii _ hmem] at hc; cases hc
  | tooLarge hascii h hlarge hzero =>
    cases h' with
    | nearest _ h' =>
      rw [h.unique hden h'] at hlarge
      exact absurd size'.representable.1 (Nat.not_lt.2 hlarge)
    | tooLarge _ _ _ hzero' | notAscii _ _ hzero' => rw [hzero, hzero']
  | notAscii hmem hc hzero =>
    cases h' with
    | nearest hascii _ => rw [hascii _ hmem] at hc; cases hc
    | tooLarge _ _ _ hzero' | notAscii _ _ hzero' => rw [hzero, hzero']

theorem denotes_iff {size : Magnitude} : n.Denotes size ↔ amount n.whole.1 n.places = size := by
  constructor
  · intro h
    exact n.denotes_amount.unique h
  · rintro rfl
    exact n.denotes_amount

end Numeral

end Audience.Duration
