import Audience.Proofs.Simulation.Criterion

/-!
# Reading does not depend on where it starts

Two simulations. A reading compared with itself shows that every level is read in the same way,
however many levels are left. Readings of one value at two places with the same source, which both
have room for it, show that the place has no part in the tree.

* **`Criterion.read_eq_level`**: what is below the first level is read as if it stood alone.
* **`Criterion.meaning?`**: the tree that a value spells under a source, without marks.
* **`Criterion.unmarked_read`**: a value is read as what it means, wherever it stands.
-/

namespace Audience

/-! ### A reading and itself -/

theorem Place.alike_enter_self (place : Place) (step : Step) :
    Alike Eq (fun p' q' => place.Deeper p' ∧ place.Deeper q' ∧ p' = q') (place.enter step)
      (place.enter step) := by
  refine .of_self ?_ ?_
  · intro p' hp'
    have hdeeper := Place.deeper_of_enter hp'
    exact ⟨hdeeper, hdeeper, rfl⟩
  · intro r _
    rfl

/-- The readings at one place. -/
def Simulation.exact : Simulation Place where
  mark place := place
  places _ p q := p = q
  outcomes results x y := Alike Eq results x y
  ok h := .ok h
  bind h next := h.bind next
  mark_eq h := h
  source_eq h := congrArg Place.source h
  withSource h source := congrArg (Place.withSource · source) h
  reject h _ _ _ cause := .error (congrArg (Place.rejection · cause) h)
  key h _ := by
    subst h
    exact Place.alike_enter_self _ _
  index h _ := by
    subst h
    exact Place.alike_enter_self _ _

namespace Criterion

theorem eq_of_alike_exact {x y : Except Rejection PlacedCriterion}
    (h : Alike Eq Simulation.exact.SameTree x y) : x = y := by
  cases h with
  | ok h =>
    have hmap : Criterion.map id _ = Criterion.map id _ := h
    rw [map_id, map_id] at hmap
    rw [hmap]
  | error h => rw [h]

/-- The levels below the first one are read as a reading that starts there would. -/
theorem read_eq_level (json : Json) (place : Place) : read json place = level read json place := by
  have hplaces : Simulation.exact.places json place place := rfl
  refine eq_of_alike_exact ?_
  show Simulation.exact.outcomes _ (readWithin _ json place) _
  cases hlevels : place.limits.maxDepth - place.depth with
  | zero =>
    exact Simulation.level hplaces (Simulation.reads_of_no_level (.inl (by omega)))
  | succ levels =>
    refine Simulation.level hplaces fun inner p' q' hin => ?_
    refine Simulation.readWithin levels _ inner p' q' ?_ (Nat.le_refl _) hin.2.2
    have := hin.1.depth_lt
    rw [hin.1.limits_eq]
    omega

end Criterion

/-! ### Readings at places with room -/

/-- From places with one source and room for a value, a step into it is taken, and leads to places
with one source and room. -/
theorem Place.alike_enter {p q : Place} {json value : Json} (hsource : p.source = q.source)
    (hp : p.HasRoom json) (hq : q.HasRoom json) (hlt : value.height < json.height) (step : Step) :
    Alike (fun _ _ => True) (fun p' q' => p.Deeper p' ∧ q.Deeper q' ∧
      p'.source = q'.source ∧ p'.HasRoom value ∧ q'.HasRoom value) (p.enter step)
      (q.enter step) := by
  obtain ⟨p', hp', hsourcep, hroomp⟩ := hp.enter hlt step
  obtain ⟨q', hq', hsourceq, hroomq⟩ := hq.enter hlt step
  have hsource' : p'.source = q'.source := by rw [hsourcep, hsourceq, hsource]
  rw [hp', hq']
  exact .ok ⟨Place.deeper_of_enter hp', Place.deeper_of_enter hq', hsource', hroomp, hroomq⟩

/-- The readings of one value under one source, at places with room for it. -/
def Simulation.roomy : Simulation Unit where
  mark _ := ()
  places json p q := p.source = q.source ∧ p.HasRoom json ∧ q.HasRoom json
  outcomes results x y := Alike (fun _ _ => True) results x y
  ok h := .ok h
  bind h next := h.bind next
  mark_eq _ := rfl
  source_eq h := h.1
  withSource h source := ⟨rfl, h.2.1.withSource source, h.2.2.withSource source⟩
  reject _ _ _ _ _ := .error trivial
  key h hmem := by
    obtain ⟨hsource, hp, hq⟩ := h
    exact Place.alike_enter hsource hp hq (Json.height_lt_of_member hmem) _
  index h hitem := by
    obtain ⟨hsource, hp, hq⟩ := h
    exact Place.alike_enter hsource hp hq (Json.height_lt_of_item (List.mem_of_getElem? hitem)) _

namespace Criterion

/-- The tree without its marks, if there is one. -/
def unmarked? (outcome : Except Rejection PlacedCriterion) : Option (Criterion Unit) :=
  outcome.toOption.map (Criterion.map fun _ => ())

/-- A place with just the room that a value needs. -/
def roomFor (source : Source) (json : Json) : Place := ⟨source, [], ⟨json.height, 0⟩⟩

theorem hasRoom_roomFor (source : Source) (json : Json) : (roomFor source json).HasRoom json := by
  show 0 + json.height ≤ json.height
  omega

/-- The tree that a value spells under a source. -/
def meaning? (source : Source) (json : Json) : Option (Criterion Unit) :=
  unmarked? (read json (roomFor source json))

theorem unmarked_eq_of_alike {x y : Except Rejection PlacedCriterion}
    (h : Alike (fun _ _ => True) Simulation.roomy.SameTree x y) : unmarked? x = unmarked? y := by
  cases h with
  | ok h => exact congrArg some h
  | error h => rfl

/-- A value is read as what it means under the source in force, wherever there is room for it. -/
theorem unmarked_read {json : Json} {place : Place} (hroom : place.HasRoom json) :
    unmarked? (read json place) = meaning? place.source json := by
  have hplaces : Simulation.roomy.places json place (roomFor place.source json) :=
    ⟨rfl, hroom, hasRoom_roomFor _ _⟩
  exact unmarked_eq_of_alike (Simulation.read hplaces)

end Criterion

end Audience
