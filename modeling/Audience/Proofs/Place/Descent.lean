import Audience.Place
import Audience.Proofs.Json.Nesting

/-!
# Places further down

* **`Place.enter_eq_ok_iff`**: a step is taken unless it would pass the depth limit.
* **`Place.Deeper`**: a place entered from another one.
* **`Place.HasRoom`**: the depth limit lets a reader at a place come to everything in a value.
  **`Place.HasRoom.key`**, **`Place.HasRoom.index`**: every step from such a place is taken.
-/

namespace Audience

/-! ### Places entered from a place -/

namespace Place

variable {place inner deeper : Place}

/-- A place that was entered from another one, by one step or more. -/
structure Deeper (place deeper : Place) : Prop where
  limits_eq : deeper.limits = place.limits
  depth_lt : place.depth < deeper.depth
  depth_le : deeper.depth ≤ place.limits.maxDepth

theorem Deeper.trans (h : place.Deeper inner) (h' : inner.Deeper deeper) : place.Deeper deeper where
  limits_eq := h'.limits_eq.trans h.limits_eq
  depth_lt := Nat.lt_trans h.depth_lt h'.depth_lt
  depth_le := by
    rw [← h.limits_eq]
    exact h'.depth_le

theorem Deeper.withSource (h : place.Deeper deeper) (source : Source) :
    place.Deeper (deeper.withSource source) :=
  ⟨h.limits_eq, h.depth_lt, h.depth_le⟩

theorem enter_eq_ok_iff {step : Step} :
    place.enter step = .ok deeper ↔
      place.depth < place.limits.maxDepth ∧
        deeper = { place with trail := step :: place.trail } := by
  rw [enter]
  split
  · rename_i h
    rw [Except.ok.injEq]
    exact ⟨fun heq => ⟨h, heq.symm⟩, fun heq => heq.2.symm⟩
  · rename_i h
    constructor
    · intro heq
      cases heq
    · intro heq
      exact absurd heq.1 h

theorem steps_of_enter {step : Step} (h : place.enter step = .ok deeper) :
    deeper.steps = place.steps ++ [step] := by
  obtain ⟨_, rfl⟩ := enter_eq_ok_iff.1 h
  exact List.reverse_cons

/-- A step that is refused is refused where it starts. -/
theorem steps_of_enter_error {step : Step} {rejection : Rejection}
    (h : place.enter step = .error rejection) : rejection.steps = place.steps := by
  rw [enter] at h
  split at h
  · cases h
  · cases h
    rfl

theorem deeper_of_enter {step : Step} (h : place.enter step = .ok deeper) :
    place.Deeper deeper := by
  obtain ⟨hdepth, rfl⟩ := enter_eq_ok_iff.1 h
  refine ⟨rfl, ?_, ?_⟩
  · simp [depth]
  · simp only [depth, List.length_cons] at hdepth ⊢
    omega

/-! ### Room for a value -/

/-- The depth limit allows all steps from a place into what a value holds. -/
def HasRoom (place : Place) (json : Json) : Prop :=
  place.depth + json.height ≤ place.limits.maxDepth

namespace HasRoom

variable {json value : Json} {members : List (String × Json)} {items : List Json}

theorem withSource (h : place.HasRoom json) (source : Source) :
    (place.withSource source).HasRoom json :=
  h

/-- A step into something that is not as high is taken, and leaves room for it. -/
theorem enter (h : place.HasRoom json) (hlt : value.height < json.height) (step : Step) :
    ∃ child, place.enter step = .ok child ∧ child.source = place.source ∧
      child.HasRoom value := by
  unfold HasRoom at h
  have hdepth : place.depth < place.limits.maxDepth := by omega
  refine ⟨_, enter_eq_ok_iff.2 ⟨hdepth, rfl⟩, rfl, ?_⟩
  unfold HasRoom
  simp only [depth, List.length_cons] at h ⊢
  omega

theorem key {name : String} (h : place.HasRoom (.object members))
    (hmem : (name, value) ∈ members) :
    ∃ child, place.key name = .ok child ∧ child.source = place.source ∧ child.HasRoom value :=
  h.enter (Json.height_lt_of_member hmem) (.key name)

theorem index (h : place.HasRoom (.array items)) (hmem : value ∈ items) (position : Nat) :
    ∃ child, place.index position = .ok child ∧ child.source = place.source ∧
      child.HasRoom value :=
  h.enter (Json.height_lt_of_item hmem) (.index position)

end HasRoom

end Place

end Audience

