import Audience.Place
import Audience.Proofs.Text.Quoted

/-!
# Paths can be told apart

* **`Step.TextForm`**: the three ways in which a step is written.
* **`Step.text_append_inj`**: a step can be told from the steps written after it.
* **`pathText_inj`**: steps from the root with the same path are the same, whatever characters the
  keys hold.
-/

namespace Audience

namespace Step

/-- The ways in which a step is written. -/
inductive TextForm : Step → List Char → Prop
  | plain {name : String} (h : isPlainKey name.toList = true) :
      TextForm (.key name) ('.' :: name.toList)
  | quoted (name : String) :
      TextForm (.key name) ('[' :: '"' :: (name.toList.flatMap Text.quotedChar ++ ['"', ']']))
  | index (position : Nat) : TextForm (.index position) ('[' :: (Nat.toDigits 10 position ++ [']']))

theorem textForm (step : Step) : TextForm step step.text := by
  cases step with
  | key name =>
    rw [text]
    split
    · rename_i h
      exact .plain h
    · simp only [Text.quoted, List.cons_append, List.append_assoc, List.nil_append]
      exact .quoted name
  | index position => exact .index position

/-! ### What follows a step -/

/-- What may be written after a step: nothing, or another step. -/
def Follows (rest : List Char) : Prop := ∀ c ∈ rest.head?, c = '.' ∨ c = '['

theorem follows_flatMap (steps : List Step) : Follows (steps.flatMap text) := by
  intro c hc
  cases steps with
  | nil => cases hc
  | cons step rest =>
    rw [List.flatMap_cons] at hc
    have hform := textForm step
    revert hc hform
    generalize step.text = written
    intro hc hform
    cases hform with
    | plain _ => exact .inl (Option.some.inj hc).symm
    | quoted _ => exact .inr (Option.some.inj hc).symm
    | index _ => exact .inr (Option.some.inj hc).symm

/-- The characters of keys that are written without brackets. -/
def IsPlain (c : Char) : Prop := (c.isAlphanum || decide (c = '_')) = true

theorem isPlain_of_mem {name : List Char} (h : isPlainKey name = true) :
    ∀ c ∈ name, IsPlain c := by
  rw [isPlainKey, Bool.and_eq_true, List.all_eq_true] at h
  exact h.2

theorem Follows.not_isPlain {rest : List Char} (h : Follows rest) :
    ∀ c ∈ rest.head?, ¬ IsPlain c := by
  intro c hc
  rcases h c hc with rfl | rfl
  · show ¬ (_ = true)
    decide
  · show ¬ (_ = true)
    decide

/-! ### Indices -/

theorem bracket_not_mem_toDigits {n : Nat} : ∀ c ∈ Nat.toDigits 10 n, c ≠ ']' := by
  intro c hc
  obtain ⟨d, hd, rfl⟩ := Text.mem_toDigits (by decide) hc
  have hall : ∀ d < 10, d.digitChar ≠ ']' := by decide
  exact hall d hd

/-- An index does not start like a quoted key. -/
theorem toDigits_append_ne (n : Nat) (x y : List Char) : Nat.toDigits 10 n ++ x ≠ '"' :: y := by
  intro h
  cases hdigits : Nat.toDigits 10 n with
  | nil => exact Nat.toDigits_ne_nil hdigits
  | cons c rest =>
    have hc : c ∈ Nat.toDigits 10 n := by
      rw [hdigits]
      exact List.mem_cons_self
    obtain ⟨d, hd, rfl⟩ := Text.mem_toDigits (by decide) hc
    have hall : ∀ d < 10, d.digitChar ≠ '"' := by decide
    rw [hdigits] at h
    exact hall d hd (List.cons.inj h).1

/-! ### Steps and paths -/

/-- A step can be told from the steps written after it. -/
theorem text_append_inj {s t : Step} {x y : List Char} (hx : Follows x) (hy : Follows y)
    (h : s.text ++ x = t.text ++ y) : s = t ∧ x = y := by
  have hs := textForm s
  have ht := textForm t
  revert h hs ht
  generalize s.text = a
  generalize t.text = b
  intro h hs ht
  cases hs with
  | plain hs =>
    cases ht with
    | plain ht =>
      obtain ⟨hname, hxy⟩ := Text.append_inj_of_class (isPlain_of_mem hs) (isPlain_of_mem ht)
        hx.not_isPlain hy.not_isPlain (List.cons.inj h).2
      exact ⟨congrArg Step.key (String.toList_inj.1 hname), hxy⟩
    | quoted _ => exact absurd (List.cons.inj h).1 (by decide)
    | index _ => exact absurd (List.cons.inj h).1 (by decide)
  | quoted name =>
    cases ht with
    | plain _ => exact absurd (List.cons.inj h).1 (by decide)
    | quoted name' =>
      simp only [List.cons_append, List.append_assoc, List.cons.injEq, true_and] at h
      obtain ⟨hname, hxy⟩ := Text.quotedChars_append_inj h
      exact ⟨congrArg Step.key (String.toList_inj.1 hname), (List.cons.inj hxy).2⟩
    | index position =>
      simp only [List.cons_append, List.append_assoc, List.cons.injEq, true_and] at h
      exact absurd h.symm (toDigits_append_ne position _ _)
  | index position =>
    cases ht with
    | plain _ => exact absurd (List.cons.inj h).1 (by decide)
    | quoted name =>
      simp only [List.cons_append, List.append_assoc, List.cons.injEq, true_and] at h
      exact absurd h (toDigits_append_ne position _ _)
    | index position' =>
      simp only [List.cons_append, List.append_assoc, List.cons.injEq, true_and] at h
      obtain ⟨hdigits, hxy⟩ :=
        Text.append_inj_of_mark bracket_not_mem_toDigits bracket_not_mem_toDigits h
      exact ⟨congrArg Step.index (Text.toDigits_injective (by decide) (by decide) hdigits), hxy⟩

theorem text_ne_nil (step : Step) : step.text ≠ [] := by
  have hform := textForm step
  revert hform
  generalize step.text = written
  intro hform h
  cases hform <;> cases h

theorem flatMap_text_inj : ∀ {s t : List Step}, s.flatMap text = t.flatMap text → s = t := by
  intro s
  induction s with
  | nil =>
    intro t h
    cases t with
    | nil => rfl
    | cons step rest =>
      rw [List.flatMap_cons] at h
      exact absurd (List.append_eq_nil_iff.1 h.symm).1 (text_ne_nil step)
  | cons first others ih =>
    intro t h
    cases t with
    | nil =>
      rw [List.flatMap_cons] at h
      exact absurd (List.append_eq_nil_iff.1 h).1 (text_ne_nil first)
    | cons step rest =>
      rw [List.flatMap_cons, List.flatMap_cons] at h
      obtain ⟨rfl, htail⟩ := text_append_inj (follows_flatMap others) (follows_flatMap rest) h
      rw [ih htail]

end Step

/-- Steps from the root with the same path are the same. -/
theorem pathText_inj {s t : List Step} (h : pathText s = pathText t) : s = t := by
  have hchars := String.ofList_injective h
  exact Step.flatMap_text_inj (List.cons.inj hchars).2

end Audience
