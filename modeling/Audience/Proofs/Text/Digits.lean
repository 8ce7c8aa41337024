import Audience.Proofs.Text.Quoted
import Audience.Text.DecimalDigit
import Mathlib.Data.List.TakeDrop

/-!
# Rows of digits

* **`Text.span_append`**: a text of one class, taken off the front of what follows it.
* **`Text.noLeadingZero_toDigits`**, **`Text.digitsValue_toDigits`**: the digits of a number start with
  no zero, unless it is zero, and have its value.
* **`Text.digitsValue_append_zeros`**, **`Text.digitsValue_zeros_append`**: zeros after and before.
* **`Text.digitsValue_lt`**: what digits are worth at most.
-/

namespace Audience.Text

/-! ### Taking a class of characters off a text -/

theorem span_append {p : Char → Bool} {front rest : List Char} (hfront : ∀ c ∈ front, p c = true)
    (hrest : ∀ c ∈ rest.head?, p c = false) : (front ++ rest).span p = (front, rest) := by
  rw [List.span_eq_takeWhile_dropWhile, List.takeWhile_append_of_pos hfront,
    List.dropWhile_append_of_pos hfront]
  cases rest with
  | nil => simp
  | cons c rest =>
    have hc : p c = false := hrest c rfl
    rw [List.takeWhile_cons_of_neg (by simp [hc]), List.dropWhile_cons_of_neg (by simp [hc]),
      List.append_nil]

/-! ### Digits of a number -/

theorem isDigit_of_mem_toDigits {n : Nat} {c : Char} (h : c ∈ Nat.toDigits 10 n) :
    c.isDigit = true := by
  obtain ⟨d, hd, rfl⟩ := mem_toDigits (by decide) h
  have hall : ∀ d < 10, d.digitChar.isDigit = true := by decide
  exact hall d hd

theorem isDigit_of_mem_zeros {n : Nat} {c : Char} (h : c ∈ List.replicate n '0') :
    c.isDigit = true := by
  rw [List.eq_of_mem_replicate h]
  decide

/-- A row of digits that starts with a zero only if it is one. -/
def NoLeadingZero (digits : List Char) : Prop :=
  digits = ['0'] ∨ digits ≠ [] ∧ digits.head? ≠ some '0'

theorem NoLeadingZero.ne_nil {digits : List Char} (h : NoLeadingZero digits) : digits ≠ [] := by
  rcases h with rfl | ⟨hne, -⟩
  · exact List.cons_ne_nil _ _
  · exact hne

theorem head?_toDigits {n : Nat} (h : n ≠ 0) : (Nat.toDigits 10 n).head? ≠ some '0' := by
  induction n using Nat.strongRecOn with
  | ind n ih =>
    rcases Nat.lt_or_ge n 10 with hn | hn
    · have hall : ∀ d < 10, d ≠ 0 → d.digitChar ≠ '0' := by decide
      rw [Nat.toDigits_of_lt_base hn]
      intro heq
      exact hall n hn h (Option.some.inj heq)
    · rw [Nat.toDigits_of_base_le (by decide) hn, List.head?_append_of_ne_nil _ Nat.toDigits_ne_nil]
      exact ih (n / 10) (by omega) (by omega)

theorem noLeadingZero_toDigits (n : Nat) : NoLeadingZero (Nat.toDigits 10 n) := by
  by_cases h : n = 0
  · rw [h]
    exact .inl rfl
  · exact .inr ⟨Nat.toDigits_ne_nil, head?_toDigits h⟩

theorem isDecimalDigit_of_isDigit {c : Char} (h : c.isDigit = true) : isDecimalDigit c = true := by
  have hrange : 0x30 ≤ c.toNat ∧ c.toNat ≤ 0x39 := by
    simpa [Char.isDigit, UInt32.le_iff_toNat_le] using h
  rw [isDecimalDigit, CharSet.has, decimalDigits, List.any_cons]
  simp [hrange]

/-! ### Values -/

theorem digitsValue_append {start : Nat} {front rest : List Char} :
    digitsValue start (front ++ rest) = digitsValue (digitsValue start front) rest :=
  List.foldl_append

theorem digitsValue_toDigits (n : Nat) : digitsValue 0 (Nat.toDigits 10 n) = n := by
  have hvalue : ∀ d < 10, d.digitChar.toNat - '0'.toNat = d := by decide
  induction n using Nat.strongRecOn with
  | ind n ih =>
    rcases Nat.lt_or_ge n 10 with hn | hn
    · rw [Nat.toDigits_of_lt_base hn]
      show 10 * 0 + (n.digitChar.toNat - '0'.toNat) = n
      rw [hvalue n hn]
      omega
    · rw [Nat.toDigits_of_base_le (by decide) hn, digitsValue_append, ih (n / 10) (by omega)]
      show 10 * (n / 10) + ((n % 10).digitChar.toNat - '0'.toNat) = n
      rw [hvalue (n % 10) (Nat.mod_lt n (by decide))]
      omega

theorem digitsValue_zeros (start n : Nat) :
    digitsValue start (List.replicate n '0') = start * 10 ^ n := by
  induction n generalizing start with
  | zero => exact (Nat.mul_one start).symm
  | succ n ih =>
    show digitsValue (10 * start + 0) (List.replicate n '0') = start * 10 ^ (n + 1)
    rw [ih, Nat.pow_succ, Nat.add_zero, Nat.mul_comm 10 start, Nat.mul_assoc,
      Nat.mul_comm 10 (10 ^ n)]

theorem digitsValue_append_zeros {digits : List Char} {n : Nat} :
    digitsValue 0 (digits ++ List.replicate n '0') = digitsValue 0 digits * 10 ^ n := by
  rw [digitsValue_append, digitsValue_zeros]

theorem digitsValue_zeros_append {digits : List Char} {n : Nat} :
    digitsValue 0 (List.replicate n '0' ++ digits) = digitsValue 0 digits := by
  rw [digitsValue_append, digitsValue_zeros, Nat.zero_mul]

theorem le_digitsValue (start : Nat) (digits : List Char) : start ≤ digitsValue start digits := by
  induction digits generalizing start with
  | nil => exact Nat.le_refl _
  | cons c rest ih =>
    have hrest := ih (10 * start + (c.toNat - '0'.toNat))
    show start ≤ digitsValue (10 * start + (c.toNat - '0'.toNat)) rest
    omega

/-- Digits are worth less than the power of ten past them. -/
theorem digitsValue_lt {digits : List Char} (h : ∀ c ∈ digits, c.isDigit = true) (start : Nat) :
    digitsValue start digits < (start + 1) * 10 ^ digits.length := by
  induction digits generalizing start with
  | nil => simp [digitsValue]
  | cons c rest ih =>
    have hrest := ih (fun d hd => h d (List.mem_cons_of_mem _ hd))
      (10 * start + (c.toNat - '0'.toNat))
    have hdigit : c.toNat - '0'.toNat ≤ 9 := by
      have hc := h c List.mem_cons_self
      simp only [Char.isDigit, Bool.and_eq_true, decide_eq_true_eq] at hc
      have : c.toNat ≤ 57 := hc.2
      have : '0'.toNat = 48 := rfl
      omega
    have hstart : 10 * start + (c.toNat - '0'.toNat) + 1 ≤ (start + 1) * 10 := by omega
    calc digitsValue start (c :: rest)
        = digitsValue (10 * start + (c.toNat - '0'.toNat)) rest := rfl
      _ < (10 * start + (c.toNat - '0'.toNat) + 1) * 10 ^ rest.length := hrest
      _ ≤ (start + 1) * 10 * 10 ^ rest.length := Nat.mul_le_mul_right _ hstart
      _ = (start + 1) * 10 ^ (c :: rest).length := by
        rw [List.length_cons, Nat.pow_succ', Nat.mul_assoc]

end Audience.Text
