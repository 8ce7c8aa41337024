import Audience.Proofs.Rejection.Path
import Audience.Proofs.Simulation.Criterion

/-!
# Rejections point into the document

A reading is compared with itself: every place it comes to is led to by the steps of that place, and
so a rejection, which is made at such a place, carries steps that lead to a value of the document.

* **`Place.enterAll`**: a place reached by steps, and its path.
* **`Simulation.located`**: the readings of one document, each place where its steps lead.
* **`Criterion.rejection_points_into_document`**: the steps of a rejection lead to a value, and their
  path is theirs alone.
-/

namespace Audience

/-! ### Places and their paths -/

/-- The place that steps lead to, if the depth limit allows them all. -/
def Place.enterAll (place : Place) (steps : List Step) : Except Rejection Place :=
  steps.foldlM Place.enter place

theorem Place.steps_of_enterAll : ∀ {steps : List Step} {place deeper : Place},
    place.enterAll steps = .ok deeper → deeper.steps = place.steps ++ steps := by
  intro steps
  induction steps with
  | nil =>
    intro place deeper h
    cases h
    rw [List.append_nil]
  | cons step rest ih =>
    intro place deeper h
    rw [Place.enterAll, List.foldlM_cons] at h
    cases henter : place.enter step with
    | error r =>
      rw [henter] at h
      cases h
    | ok next =>
      rw [henter] at h
      have hrest : deeper.steps = next.steps ++ rest := ih h
      rw [hrest, Place.steps_of_enter henter, List.append_assoc, List.singleton_append]

/-! ### Readings that know where they are -/

/-- A place of a document where its steps lead to a value. -/
def Place.StandsAt (place : Place) (document value : Json) : Prop :=
  document.Leads place.steps value

/-- A rejection whose steps lead to a value of a document. -/
def Rejection.PointsInto (rejection : Rejection) (document : Json) : Prop :=
  ∃ value, document.Leads rejection.steps value

theorem Place.StandsAt.enter {place : Place} {document json value : Json} {step : Step}
    (h : place.StandsAt document json) (hnext : document.Leads (place.steps ++ [step]) value) :
    Alike (fun r _ => r.PointsInto document)
      (fun p' q' => place.Deeper p' ∧ place.Deeper q' ∧ p' = q' ∧ p'.StandsAt document value)
      (place.enter step) (place.enter step) := by
  refine .of_self ?_ ?_
  · intro p' hp'
    have hdeeper := Place.deeper_of_enter hp'
    refine ⟨hdeeper, hdeeper, rfl, ?_⟩
    rw [Place.StandsAt, Place.steps_of_enter hp']
    exact hnext
  · intro r hr
    refine ⟨json, ?_⟩
    rw [Place.steps_of_enter_error hr]
    exact h

/-- The readings of a document, at places where their steps lead. -/
def Simulation.located (document : Json) : Simulation Unit where
  mark _ := ()
  places json p q := p = q ∧ p.StandsAt document json
  outcomes results x y := Alike (fun r _ => r.PointsInto document) results x y
  ok h := .ok h
  bind h next := h.bind next
  mark_eq _ := rfl
  source_eq h := congrArg Place.source h.1
  withSource h source := ⟨congrArg (Place.withSource · source) h.1, h.2⟩
  reject h _ _ _ _ := .error ⟨_, h.2⟩
  key h hmem := by
    obtain ⟨rfl, h⟩ := h
    exact h.enter (Json.Leads.thenKey h hmem)
  index h hitem := by
    obtain ⟨rfl, h⟩ := h
    exact h.enter (Json.Leads.thenIndex h hitem)

/-! ### Rejected documents -/

namespace Criterion

theorem read_error_pointsInto {json : Json} {place : Place} {rejection : Rejection}
    {document : Json} (h : place.StandsAt document json)
    (herror : read json place = .error rejection) : rejection.PointsInto document := by
  have hplaces : (Simulation.located document).places json place place := ⟨rfl, h⟩
  have hself : Alike (fun r _ => r.PointsInto document) _ (read json place) (read json place) :=
    Simulation.read hplaces
  rw [herror] at hself
  cases hself with
  | error h => exact h

theorem ofJson_error_pointsInto {limits : Limits} {json : Json} {rejection : Rejection}
    (herror : ofJson limits json = .error rejection) : rejection.PointsInto json := by
  have hroot : (Place.root limits).StandsAt json json := Json.Leads.here json
  rw [ofJson] at herror
  cases hread : read json (.root limits) with
  | error r =>
    rw [hread] at herror
    cases herror
    exact read_error_pointsInto hroot hread
  | ok criterion =>
    rw [hread] at herror
    -- too many nodes is the fault of the whole document
    have hwhole : rejection = (Place.root limits).rejection
        (.tooManyNodes criterion.nodeCount limits.maxNodes) := by
      simp only [bind, Except.bind] at herror
      split at herror
      · cases herror
        rfl
      · cases herror
    rw [hwhole]
    exact ⟨json, hroot⟩

/-- A rejection points into the document: its path is that of steps which lead from the root to a
value there. Steps from the root give the path of the place they lead to, and no two rows of steps
have the same path. -/
theorem rejection_points_into_document :
    (∀ (limits : Limits) (json : Json) (rejection : Rejection),
      ofJson limits json = .error rejection →
        ∃ (steps : List Step) (value : Json),
          json.Leads steps value ∧ rejection.path = pathText steps) ∧
    (∀ (limits : Limits) (steps : List Step) (place : Place),
      (Place.root limits).enterAll steps = .ok place → place.path = pathText steps) ∧
    (∀ steps steps' : List Step, steps ≠ steps' → pathText steps ≠ pathText steps') := by
  refine ⟨?_, ?_, ?_⟩
  · intro limits json rejection herror
    obtain ⟨value, hleads⟩ := ofJson_error_pointsInto herror
    exact ⟨rejection.steps, value, hleads, rfl⟩
  · intro limits steps place hplace
    have hsteps : place.steps = steps := Place.steps_of_enterAll hplace
    rw [Place.path, hsteps]
  · intro steps steps' hne hpath
    exact hne (pathText_inj hpath)

/-- The rejection of a member below `geo` whose key is not plain. -/
theorem rejection_below_geo_points_into_document :
    (∃ (steps : List Step) (value : Json),
      (Json.object [("geo", .object [("a b", .null)])]).Leads steps value ∧
        (Rejection.mk (.unknownGeoKey "a b") [.key "geo", .key "a b"]).path = pathText steps) ∧
    (Place.mk .installation [.key "a b", .key "geo"] .standard).path =
      pathText [.key "geo", .key "a b"] ∧
    pathText [.key "a.b"] ≠ pathText [.key "a", .key "b"] := by
  obtain ⟨hleads, hpath, hne⟩ := rejection_points_into_document
  refine ⟨?_, ?_, ?_⟩
  · exact hleads .standard _ _ rfl
  · exact hpath .standard [.key "geo", .key "a b"] _ rfl
  · exact hne _ _ (by decide)

end Criterion

end Audience
