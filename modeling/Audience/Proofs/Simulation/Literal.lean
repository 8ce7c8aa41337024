import Audience.Proofs.Simulation.Basic

/-!
# Simulation of the reading of literals

A literal uses its place for the source in force, for the steps down and for refusals. So readings of
one literal at corresponding places correspond, with the same literal as their result.

* **`Simulation.literal_ofJson`**, **`Simulation.literal_areaOfJson`**: literals, and those that must
  be areas.
-/

namespace Audience.Simulation

variable {γ : Type} {sim : Simulation γ} {json : Json} {p q : Place}

theorem ok_self {α : Type} (a : α) : sim.outcomes Eq (.ok a) (.ok a) := sim.ok rfl

theorem map_self {α β : Type} {x y : Except Rejection α} (h : sim.outcomes Eq x y) (f : α → β) :
    sim.outcomes Eq (x.map f) (y.map f) :=
  map h fun _ _ heq => congrArg f heq

/-! ### Dates and durations -/

theorem literal_dateOfText (h : sim.places json p q) (written : String) :
    sim.outcomes Eq (Literal.dateOfText p written) (Literal.dateOfText q written) := by
  unfold Literal.dateOfText
  split
  · exact ok_self _
  · exact sim.reject h _

theorem literal_dateOfMillis (h : sim.places json p q) (millis : Binary64) :
    sim.outcomes Eq (Literal.dateOfMillis p millis) (Literal.dateOfMillis q millis) := by
  unfold Literal.dateOfMillis
  split
  · exact ok_self _
  · exact sim.reject h _

theorem literal_durationOf (h : sim.places json p q) (value : Json) :
    sim.outcomes Eq (Literal.durationOf p value) (Literal.durationOf q value) := by
  unfold Literal.durationOf
  split
  · exact ok_self _
  · exact sim.reject h _

/-! ### Bare values -/

theorem literal_ofNumber (h : sim.places json p q) (value : Binary64) :
    sim.outcomes Eq (Literal.ofNumber p value) (Literal.ofNumber q value) := by
  unfold Literal.ofNumber
  rw [sim.source_eq h]
  split
  · exact map_self (literal_dateOfMillis h value) _
  · split
    · exact ok_self _
    · exact ok_self _

theorem literal_ofText (h : sim.places json p q) (value : String) :
    sim.outcomes Eq (Literal.ofText p value) (Literal.ofText q value) := by
  unfold Literal.ofText
  rw [sim.source_eq h]
  split
  · split
    · exact ok_self _
    · exact map_self (literal_dateOfText h value) _
  · split
    · exact map_self (literal_durationOf h _) _
    · exact ok_self _

/-! ### Areas -/

theorem literal_numberUnder (h : sim.places json p q) (body : Json) (key : String) :
    sim.outcomes Eq (Literal.numberUnder p body key) (Literal.numberUnder q body key) := by
  unfold Literal.numberUnder
  split
  · exact ok_self _
  · exact sim.reject h _

theorem literal_located {α : Type} (h : sim.places json p q) (result : Except Geo.Fault α) :
    sim.outcomes Eq (Literal.located p result) (Literal.located q result) := by
  cases result with
  | ok value => exact ok_self _
  | error fault => exact sim.reject h _

theorem literal_locationOf (h : sim.places json p q) (body : Json) :
    sim.outcomes Eq (Literal.locationOf p body) (Literal.locationOf q body) := by
  unfold Literal.locationOf
  refine sim.bind (literal_numberUnder h body "lat") ?_
  intro lat lat' heq
  subst heq
  refine sim.bind (literal_numberUnder h body "lon") ?_
  intro lon lon' heq
  subst heq
  exact literal_located h _

theorem literal_circleOf (h : sim.places json p q) :
    sim.outcomes Eq (Literal.circleOf p json) (Literal.circleOf q json) := by
  unfold Literal.circleOf
  split
  · exact sim.reject h _
  · rename_i center hcenter
    obtain ⟨members, rfl, hmem⟩ := Json.mem_of_member? hcenter
    refine sim.bind (sim.key h hmem) fun p' q' hin => ?_
    refine sim.bind (literal_locationOf hin.2.2 center) ?_
    intro location location' heq
    subst heq
    refine sim.bind (literal_numberUnder h _ "radius") ?_
    intro radius radius' heq
    subst heq
    exact literal_located h _

theorem literal_boxOf (h : sim.places json p q) (body : Json) :
    sim.outcomes Eq (Literal.boxOf p body) (Literal.boxOf q body) := by
  unfold Literal.boxOf
  refine sim.bind (literal_numberUnder h body "top") ?_
  intro top top' heq
  subst heq
  refine sim.bind (literal_numberUnder h body "right") ?_
  intro right right' heq
  subst heq
  refine sim.bind (literal_numberUnder h body "bottom") ?_
  intro bottom bottom' heq
  subst heq
  refine sim.bind (literal_numberUnder h body "left") ?_
  intro left left' heq
  subst heq
  exact literal_located h _

/-! ### Literals -/

theorem literal_ofTyped (h : sim.places json p q) (type : String) :
    sim.outcomes Eq (Literal.ofTyped p type json) (Literal.ofTyped q type json) := by
  unfold Literal.ofTyped
  split
  · split
    · exact map_self (literal_dateOfText h _) _
    · exact map_self (literal_dateOfMillis h _) _
    · exact sim.reject h _
  split
  · split
    · exact ok_self _
    · exact map_self (literal_durationOf h _) _
  split
  · exact map_self (literal_durationOf h _) _
  split
  · exact map_self (literal_circleOf h) _
  split
  · exact map_self (literal_boxOf h _) _
  · exact sim.reject h _

theorem literal_ofJson (h : sim.places json p q) :
    sim.outcomes Eq (Literal.ofJson p json) (Literal.ofJson q json) := by
  cases json with
  | null => exact sim.reject h _
  | bool value => exact ok_self _
  | number value => exact literal_ofNumber h _
  | string value => exact literal_ofText h _
  | array items => exact sim.reject h _
  | object members =>
    match members with
    | [] => exact sim.reject h _
    | [(type, body)] =>
      refine sim.bind (sim.key h List.mem_cons_self) fun p' q' hin => ?_
      exact literal_ofTyped hin.2.2 type
    | _ :: _ :: _ => exact sim.reject h _

theorem literal_areaOfJson (h : sim.places json p q) :
    sim.outcomes Eq (Literal.areaOfJson p json) (Literal.areaOfJson q json) := by
  unfold Literal.areaOfJson
  refine sim.bind (literal_ofJson h) ?_
  intro literal literal' heq
  subst heq
  split
  · exact ok_self _
  · exact sim.reject h _

end Audience.Simulation
