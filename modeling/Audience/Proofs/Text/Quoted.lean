import Audience.Text.Quoted
import Mathlib.Data.List.Basic

/-!
# Quoted text can be told apart

* **`Text.append_inj_of_class`**: where a text of one class of characters ends before another class
  begins, both parts can be told.
* **`Text.toDigits_injective`**: numbers with the same digits are the same.
* **`Text.quotedChar_append_inj`**, **`Text.quotedChars_append_inj`**: a quoted character, and a quoted
  text up to its closing quote, can be told from what follows.
-/

namespace Audience.Text

/-! ### Texts of one class -/

theorem append_inj_of_class {P : Char → Prop} :
    ∀ {a b x y : List Char}, (∀ c ∈ a, P c) → (∀ c ∈ b, P c) → (∀ c ∈ x.head?, ¬ P c) →
      (∀ c ∈ y.head?, ¬ P c) → a ++ x = b ++ y → a = b ∧ x = y := by
  intro a
  induction a with
  | nil =>
    intro b x y _ hb hx _ h
    cases b with
    | nil => exact ⟨rfl, h⟩
    | cons d b =>
      rw [List.nil_append] at h
      rw [h] at hx
      exact absurd (hb d List.mem_cons_self) (hx d rfl)
  | cons c a ih =>
    intro b x y ha hb hx hy h
    cases b with
    | nil =>
      rw [List.nil_append] at h
      rw [← h] at hy
      exact absurd (ha c List.mem_cons_self) (hy c rfl)
    | cons d b =>
      obtain ⟨rfl, htail⟩ := List.cons.inj h
      obtain ⟨rfl, hxy⟩ := ih (fun e he => ha e (List.mem_cons_of_mem _ he))
        (fun e he => hb e (List.mem_cons_of_mem _ he)) hx hy htail
      exact ⟨rfl, hxy⟩

/-- A text ends at the first mark after it, if it holds none. -/
theorem append_inj_of_mark {mark : Char} {a b x y : List Char} (ha : ∀ c ∈ a, c ≠ mark)
    (hb : ∀ c ∈ b, c ≠ mark) (h : a ++ mark :: x = b ++ mark :: y) : a = b ∧ x = y := by
  have hmark : ∀ rest : List Char, ∀ c ∈ (mark :: rest).head?, ¬ c ≠ mark := by
    intro rest c hc hne
    exact hne (Option.some.inj hc).symm
  obtain ⟨hab, hrest⟩ := append_inj_of_class ha hb (hmark x) (hmark y) h
  exact ⟨hab, (List.cons.inj hrest).2⟩

/-! ### Digits -/

theorem digitChar_injOn {i j : Nat} (hi : i < 16) (hj : j < 16)
    (h : i.digitChar = j.digitChar) : i = j := by
  have hall : ∀ i < 16, ∀ j < 16, i.digitChar = j.digitChar → i = j := by decide
  exact hall i hi j hj h

/-- A number below the base has one digit, and no other number has. -/
theorem toDigits_ne_of_lt_of_le {b m n : Nat} (hb : 1 < b) (hm : m < b) (hn : b ≤ n) :
    Nat.toDigits b m ≠ Nat.toDigits b n := by
  intro h
  rw [Nat.toDigits_of_lt_base hm, Nat.toDigits_of_base_le hb hn] at h
  have hlen := congrArg List.length h
  have hpos : 0 < (Nat.toDigits b (n / b)).length := Nat.length_toDigits_pos
  rw [List.length_append, List.length_singleton, List.length_singleton] at hlen
  omega

theorem toDigits_injective {b : Nat} (hb : 1 < b) (hb' : b ≤ 16) :
    Function.Injective (Nat.toDigits b) := by
  intro m
  induction m using Nat.strongRecOn with
  | ind m ih =>
    intro n h
    have hmod : ∀ k, k % b < 16 := fun k => Nat.lt_of_lt_of_le (Nat.mod_lt k (by omega)) hb'
    rcases Nat.lt_or_ge m b with hm | hm <;> rcases Nat.lt_or_ge n b with hn | hn
    · rw [Nat.toDigits_of_lt_base hm, Nat.toDigits_of_lt_base hn] at h
      exact digitChar_injOn (by omega) (by omega) (List.cons.inj h).1
    · exact absurd h (toDigits_ne_of_lt_of_le hb hm hn)
    · exact absurd h.symm (toDigits_ne_of_lt_of_le hb hn hm)
    · rw [Nat.toDigits_of_base_le hb hm, Nat.toDigits_of_base_le hb hn] at h
      obtain ⟨hfront, hlast⟩ := List.append_inj' h rfl
      have hdiv : m / b = n / b := ih (m / b) (Nat.div_lt_self (by omega) hb) hfront
      have hrem : m % b = n % b := digitChar_injOn (hmod m) (hmod n) (List.cons.inj hlast).1
      rw [← Nat.div_add_mod m b, ← Nat.div_add_mod n b, hdiv, hrem]

theorem mem_toDigits {b : Nat} (hb : 1 < b) {n : Nat} {c : Char} (h : c ∈ Nat.toDigits b n) :
    ∃ d, d < b ∧ c = d.digitChar := by
  induction n using Nat.strongRecOn with
  | ind n ih =>
    rcases Nat.lt_or_ge n b with hn | hn
    · rw [Nat.toDigits_of_lt_base hn, List.mem_singleton] at h
      exact ⟨n, hn, h⟩
    · rw [Nat.toDigits_of_base_le hb hn, List.mem_append, List.mem_singleton] at h
      rcases h with h | h
      · exact ih (n / b) (Nat.div_lt_self (by omega) hb) h
      · exact ⟨n % b, Nat.mod_lt _ (by omega), h⟩

/-! ### Quoted characters -/

/-- The characters that are written as a backslash and a letter or mark. -/
def escapes : List (Char × Char) :=
  [('\x00', '0'), ('\t', 't'), ('\r', 'r'), ('\n', 'n'), ('"', '"'), ('\\', '\\')]

/-- The ways in which a character stands between quotes. -/
inductive QuotedForm : Char → List Char → Prop
  | escaped {c mark : Char} (h : (c, mark) ∈ escapes) : QuotedForm c ['\\', mark]
  | itself {c : Char} (hquote : c ≠ '"') (hslash : c ≠ '\\') : QuotedForm c [c]
  | code (c : Char) :
      QuotedForm c ('\\' :: 'u' :: '\x7b' :: Nat.toDigits 16 c.toNat ++ ['\x7d'])

theorem quotedForm (c : Char) : QuotedForm c (quotedChar c) := by
  rw [quotedChar]
  split
  · rename_i h
    exact .escaped (by rw [h]; decide)
  split
  · rename_i h
    exact .escaped (by rw [h]; decide)
  split
  · rename_i h
    exact .escaped (by rw [h]; decide)
  split
  · rename_i h
    exact .escaped (by rw [h]; decide)
  split
  · rename_i h
    exact .escaped (by rw [h]; decide)
  split
  · rename_i h
    exact .escaped (by rw [h]; decide)
  split
  · exact .itself ‹_› ‹_›
  · exact .code c

/-- The mark of an escape tells the character. -/
theorem escapes_inj {c d mark : Char} (hc : (c, mark) ∈ escapes) (hd : (d, mark) ∈ escapes) :
    c = d := by
  have hall : ∀ a ∈ escapes, ∀ b ∈ escapes, a.2 = b.2 → a.1 = b.1 := by decide
  exact hall _ hc _ hd rfl

/-- The letter before a code point is the mark of no escape. -/
theorem ne_of_mem_escapes {c mark : Char} (h : (c, mark) ∈ escapes) : mark ≠ 'u' := by
  have hall : ∀ a ∈ escapes, a.2 ≠ 'u' := by decide
  exact hall _ h

theorem brace_not_mem_toDigits {n : Nat} : ∀ c ∈ Nat.toDigits 16 n, c ≠ '\x7d' := by
  intro c hc
  obtain ⟨d, hd, rfl⟩ := mem_toDigits (by decide) hc
  have hall : ∀ d < 16, d.digitChar ≠ '\x7d' := by decide
  exact hall d hd

/-- A quoted character can be told from whatever follows it. -/
theorem quotedChar_append_inj {c d : Char} {x y : List Char}
    (h : quotedChar c ++ x = quotedChar d ++ y) : c = d ∧ x = y := by
  have hc := quotedForm c
  have hd := quotedForm d
  revert h hc hd
  generalize quotedChar c = s
  generalize quotedChar d = t
  intro h hc hd
  cases hc with
  | escaped hc =>
    cases hd with
    | escaped hd =>
      obtain ⟨rfl, rfl⟩ := List.cons.inj (List.cons.inj h).2
      exact ⟨escapes_inj hc hd, rfl⟩
    | itself _ hslash => exact absurd (List.cons.inj h).1.symm hslash
    | code => exact absurd (List.cons.inj (List.cons.inj h).2).1 (ne_of_mem_escapes hc)
  | itself _ hslash =>
    cases hd with
    | escaped _ => exact absurd (List.cons.inj h).1 hslash
    | itself _ _ => exact List.cons.inj h
    | code => exact absurd (List.cons.inj h).1 hslash
  | code =>
    cases hd with
    | escaped hd => exact absurd (List.cons.inj (List.cons.inj h).2).1.symm (ne_of_mem_escapes hd)
    | itself _ hslash => exact absurd (List.cons.inj h).1.symm hslash
    | code =>
      simp only [List.cons_append, List.append_assoc, List.cons.injEq, true_and] at h
      obtain ⟨hdigits, hxy⟩ := append_inj_of_mark brace_not_mem_toDigits brace_not_mem_toDigits h
      have hcode := toDigits_injective (by decide) (by decide) hdigits
      exact ⟨Char.toNat_inj.1 hcode, hxy⟩

/-- No quoted character starts with a quote. -/
theorem quotedChar_append_ne (c : Char) (x y : List Char) : quotedChar c ++ x ≠ '"' :: y := by
  have hc := quotedForm c
  revert hc
  generalize quotedChar c = s
  intro hc h
  cases hc with
  | escaped _ => exact absurd (List.cons.inj h).1 (by decide)
  | itself hquote _ => exact hquote (List.cons.inj h).1
  | code => exact absurd (List.cons.inj h).1 (by decide)

/-- Quoted characters up to a closing quote can be told from what follows it. -/
theorem quotedChars_append_inj : ∀ {s t x y : List Char},
    s.flatMap quotedChar ++ '"' :: x = t.flatMap quotedChar ++ '"' :: y → s = t ∧ x = y := by
  intro s
  induction s with
  | nil =>
    intro t x y h
    cases t with
    | nil => exact ⟨rfl, (List.cons.inj h).2⟩
    | cons d t =>
      rw [List.flatMap_cons, List.append_assoc] at h
      exact absurd h.symm (quotedChar_append_ne d _ _)
  | cons c s ih =>
    intro t x y h
    cases t with
    | nil =>
      rw [List.flatMap_cons, List.append_assoc] at h
      exact absurd h (quotedChar_append_ne c _ _)
    | cons d t =>
      rw [List.flatMap_cons, List.flatMap_cons, List.append_assoc, List.append_assoc] at h
      obtain ⟨rfl, htail⟩ := quotedChar_append_inj h
      obtain ⟨rfl, hxy⟩ := ih htail
      exact ⟨rfl, hxy⟩

end Audience.Text
