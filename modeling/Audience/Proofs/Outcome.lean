import Audience.Place

/-!
# Outcomes that are results

* **`bind_eq_ok_iff`**, **`map_eq_ok_iff`**: when steps one after the other give a result.
* **`Accepts`**: an outcome that is a result, whichever it is. **`accepts_bind_iff`**,
  **`accepts_map_iff`**: the same for acceptance alone.
* **`some_bind`**, **`mapM_eq_some_map`**, **`exists_of_mapM_eq_some`**,
  **`exists_step_of_mapM_eq_some`**: steps that may fail with nothing, and rows of them, where each has
  a result. **`foldlM_append_of_some`**: runs of them, where each goes on from the one before.
-/

namespace Audience

variable {α β : Type}

/-! ### Results -/

section

variable {ε : Type} {x : Except ε α}

theorem bind_eq_ok_iff {f : α → Except ε β} {b : β} :
    x >>= f = .ok b ↔ ∃ a, x = .ok a ∧ f a = .ok b := by
  cases x with
  | ok a =>
    constructor
    · intro h
      exact ⟨a, rfl, h⟩
    · intro h
      obtain ⟨_, ha, h⟩ := h
      cases ha
      exact h
  | error r =>
    constructor
    · intro h
      cases h
    · intro h
      obtain ⟨_, ha, _⟩ := h
      cases ha

theorem pure_eq_ok_iff {a b : α} : (pure a : Except ε α) = .ok b ↔ a = b := by
  show Except.ok a = .ok b ↔ a = b
  rw [Except.ok.injEq]

theorem toOption_eq_some_iff {a : α} : x.toOption = some a ↔ x = .ok a := by
  cases x with
  | ok b => simp [Except.toOption]
  | error r => simp [Except.toOption]

theorem map_eq_ok_iff {f : α → β} {b : β} : x.map f = .ok b ↔ ∃ a, x = .ok a ∧ f a = b := by
  cases x with
  | ok a => simp [Except.map]
  | error r => simp [Except.map]

end

variable {x : Except Rejection α}

theorem reject_ne_ok (place : Place) (cause : Rejection.Cause) (a : α) :
    place.reject cause ≠ .ok a := by
  intro h
  cases h

/-! ### Acceptance -/

/-- The outcome is a result. -/
def Accepts (x : Except Rejection α) : Prop := ∃ a, x = .ok a

theorem accepts_of_isOk (h : x.isOk = true) : Accepts x := by
  cases x with
  | ok a => exact ⟨a, rfl⟩
  | error r => cases h

@[simp]
theorem accepts_ok (a : α) : Accepts (.ok a) := ⟨a, rfl⟩

@[simp]
theorem accepts_pure (a : α) : Accepts (pure a) := ⟨a, rfl⟩

@[simp]
theorem not_accepts_reject (place : Place) (cause : Rejection.Cause) :
    ¬ Accepts (place.reject cause : Except Rejection α) := by
  intro h
  obtain ⟨a, ha⟩ := h
  exact reject_ne_ok place cause a ha

theorem accepts_bind_iff {f : α → Except Rejection β} :
    Accepts (x >>= f) ↔ ∃ a, x = .ok a ∧ Accepts (f a) := by
  constructor
  · intro h
    obtain ⟨b, hb⟩ := h
    obtain ⟨a, ha, hf⟩ := bind_eq_ok_iff.1 hb
    exact ⟨a, ha, b, hf⟩
  · intro h
    obtain ⟨a, ha, b, hf⟩ := h
    exact ⟨b, bind_eq_ok_iff.2 ⟨a, ha, hf⟩⟩

theorem accepts_bind_of_ok {f : α → Except Rejection β} {a : α} (h : x = .ok a) :
    Accepts (x >>= f) ↔ Accepts (f a) := by
  rw [h]
  rfl

/-- Where acceptance of the next step is the same after every result, the two are independent. -/
theorem accepts_bind_iff_and {f : α → Except Rejection β} {q : Prop}
    (h : ∀ a, x = .ok a → (Accepts (f a) ↔ q)) : Accepts (x >>= f) ↔ Accepts x ∧ q := by
  rw [accepts_bind_iff]
  constructor
  · intro h
    obtain ⟨a, ha, hf⟩ := h
    exact ⟨⟨a, ha⟩, (h a ha).1 hf⟩
  · intro h
    obtain ⟨⟨a, ha⟩, hq⟩ := h
    exact ⟨a, ha, (h a ha).2 hq⟩

/-- Only acceptance counts where the next step gives a result in any case. -/
theorem accepts_bind_pure_iff {f : α → β} : Accepts (x >>= fun a => pure (f a)) ↔ Accepts x := by
  simp only [accepts_bind_iff, accepts_pure, and_true]
  rfl

theorem accepts_map_iff {f : α → β} : Accepts (x.map f) ↔ Accepts x := by
  cases x with
  | ok a => simp [Accepts, Except.map]
  | error r => simp [Accepts, Except.map]

/-! ### Steps that may fail -/

/-- The step after a result goes on with it. -/
theorem some_bind {β γ : Type} (b : β) (f : β → Option γ) : some b >>= f = f b := rfl

theorem mapM_eq_some_map {β γ : Type} {f : β → Option γ} {g : β → γ} {xs : List β}
    (h : ∀ x ∈ xs, f x = some (g x)) : xs.mapM f = some (xs.map g) := by
  induction xs with
  | nil => rfl
  | cons x rest ih =>
    rw [List.mapM_cons, h x List.mem_cons_self,
      ih fun other hmem => h other (List.mem_cons_of_mem _ hmem)]
    rfl

section

variable {β γ : Type} {step : γ → β → Option γ} {state next : γ} {x : β} {front rest : List β}

/-- A run goes on from where its front ends. -/
theorem foldlM_append_of_some (h : front.foldlM step state = some next) :
    (front ++ rest).foldlM step state = rest.foldlM step next := by
  rw [List.foldlM_append, h]
  rfl

theorem foldlM_cons_of_some (h : step state x = some next) :
    (x :: rest).foldlM step state = rest.foldlM step next := by
  rw [List.foldlM_cons, h]
  rfl

theorem foldlM_singleton : [x].foldlM step state = step state x := by
  rw [List.foldlM_cons]
  exact bind_pure _

end

/-- Every step of a row with results has one. -/
theorem exists_step_of_mapM_eq_some {β γ : Type} {f : β → Option γ} {xs : List β} {ys : List γ} {x : β}
    (h : xs.mapM f = some ys) (hx : x ∈ xs) : ∃ y, f x = some y := by
  induction xs generalizing ys with
  | nil => cases hx
  | cons first rest ih =>
    rw [List.mapM_cons] at h
    obtain ⟨y, hy, h⟩ := Option.bind_eq_some_iff.1 h
    obtain ⟨others, hothers, h⟩ := Option.bind_eq_some_iff.1 h
    rcases List.mem_cons.1 hx with rfl | hx
    · exact ⟨y, hy⟩
    · exact ih hothers hx

end Audience
