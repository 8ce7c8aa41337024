import Audience.Proofs.Literal.Outcome
import Audience.Proofs.Place.Descent

/-!
# Literals are accepted as the grammar says

At a place with room for it, a value is read as a literal if and only if it is one under the source in
force there.

* **`Literal.accepts_ofJson_iff`**, **`Literal.accepts_areaOfJson_iff`**: literals, and those that
  must be areas.
-/

namespace Audience.Literal

variable {place : Place} {body json : Json}

/-! ### Areas -/

theorem accepts_locationOf_iff : Accepts (locationOf place body) ↔ Grammar.IsLocation body := by
  constructor
  · intro h
    obtain ⟨location, h⟩ := h
    obtain ⟨hlat, hlon, hlatRange, hlonRange⟩ := locationOf_eq_ok_iff.1 h
    exact .mk hlat hlon hlatRange hlonRange
  · intro h
    obtain ⟨hlat, hlon, hlatRange, hlonRange⟩ := h
    exact ⟨⟨_, _⟩, locationOf_eq_ok_iff.2 ⟨hlat, hlon, hlatRange, hlonRange⟩⟩

theorem accepts_circleOf_iff (hroom : place.HasRoom body) :
    Accepts (circleOf place body) ↔ Grammar.IsCircle body := by
  constructor
  · intro h
    obtain ⟨circle, h⟩ := h
    obtain ⟨center, child, hcenter, _, hlocation, hradius, hfinite, hsign⟩ :=
      circleOf_eq_ok_iff.1 h
    exact .mk hcenter (accepts_locationOf_iff.1 ⟨_, hlocation⟩) hradius hfinite hsign
  · intro h
    obtain ⟨hcenter, hlocation, hradius, hfinite, hsign⟩ := h
    obtain ⟨members, rfl, hmem⟩ := Json.mem_of_member? hcenter
    obtain ⟨child, hchild, _, _⟩ := hroom.key hmem
    have haccepts : Accepts (locationOf child _) := accepts_locationOf_iff.2 hlocation
    obtain ⟨location, hlocation⟩ := haccepts
    exact ⟨⟨location, _⟩,
      circleOf_eq_ok_iff.2 ⟨_, child, hcenter, hchild, hlocation, hradius, hfinite, hsign⟩⟩

theorem accepts_boxOf_iff : Accepts (boxOf place body) ↔ Grammar.IsBox body := by
  constructor
  · intro h
    obtain ⟨box, h⟩ := h
    obtain ⟨⟨htop, hright, hbottom, hleft⟩, h₁, h₂, h₃, h₄, horder⟩ := boxOf_eq_ok_iff.1 h
    exact .mk htop hright hbottom hleft h₁ h₂ h₃ h₄ horder
  · intro h
    obtain ⟨htop, hright, hbottom, hleft, h₁, h₂, h₃, h₄, horder⟩ := h
    exact ⟨⟨_, _, _, _⟩,
      boxOf_eq_ok_iff.2 ⟨⟨htop, hright, hbottom, hleft⟩, h₁, h₂, h₃, h₄, horder⟩⟩

/-! ### Typed values -/

theorem accepts_dateOf_iff :
    Accepts (match body with
      | .string value => (dateOfText place value).map date
      | .number value => (dateOfMillis place value.toBinary64).map date
      | _ => place.reject .dateExpected) ↔ Grammar.IsDate body := by
  split
  · rw [accepts_map_iff, accepts_dateOfText_iff]
    exact ⟨.text, fun h => by cases h; assumption⟩
  · rw [accepts_map_iff, accepts_dateOfMillis_iff]
    exact ⟨.number, fun h => by cases h; assumption⟩
  · rename_i hstring hnumber
    refine iff_of_false (not_accepts_reject _ _) fun h => ?_
    cases h with
    | text => exact hstring _ rfl
    | number => exact hnumber _ rfl

theorem accepts_ofTyped_iff {type : String} (hroom : place.HasRoom body) :
    Accepts (ofTyped place type body) ↔ Grammar.IsTyped type body := by
  unfold ofTyped
  split
  · rename_i htype
    subst htype
    exact accepts_dateOf_iff
  split
  · rename_i htype
    subst htype
    show _ ↔ Grammar.IsDuration body
    split
    · exact iff_of_true (accepts_ok _) .number
    · rename_i hnumber
      rw [accepts_map_iff, accepts_durationOf_iff]
      constructor
      · intro h
        rcases h with ⟨text, rfl, h⟩
        exact .text h
      · intro h
        cases h with
        | text h => exact ⟨_, rfl, h⟩
        | number => exact absurd rfl (hnumber _)
  split
  · rename_i htype
    subst htype
    show _ ↔ Grammar.IsRelativeDate body
    rw [accepts_map_iff, accepts_durationOf_iff]
    constructor
    · intro h
      rcases h with ⟨text, rfl, h⟩
      exact .text h
    · intro h
      cases h with
      | text h => exact ⟨_, rfl, h⟩
  split
  · rename_i htype
    subst htype
    rw [accepts_map_iff]
    exact accepts_circleOf_iff hroom
  split
  · rename_i htype
    subst htype
    rw [accepts_map_iff]
    exact accepts_boxOf_iff
  · refine iff_of_false (not_accepts_reject _ _) fun h => ?_
    unfold Grammar.IsTyped at h
    split at h <;> contradiction

/-! ### Literals -/

theorem accepts_ofNumber_iff {value : Json.Number} :
    Accepts (ofNumber place value.toBinary64) ↔
      Grammar.IsLiteral place.source (.number value) := by
  rw [ofNumber]
  cases hdate : place.source.isDate with
  | true =>
    rw [if_pos rfl, accepts_map_iff, accepts_dateOfMillis_iff]
    constructor
    · intro h
      exact .dateNumber hdate h
    · intro h
      cases h with
      | dateNumber _ h => exact h
      | number hother => simp [hdate] at hother
  | false =>
    rw [if_neg Bool.false_ne_true]
    have hliteral : Grammar.IsLiteral place.source (.number value) := .number hdate
    cases place.source.isDuration with
    | true => exact iff_of_true (accepts_ok _) hliteral
    | false => exact iff_of_true (accepts_ok _) hliteral

theorem accepts_ofText_iff {text : String} :
    Accepts (ofText place text) ↔ Grammar.IsLiteral place.source (.string text) := by
  rw [ofText]
  cases hdate : place.source.isDate with
  | true =>
    rw [if_pos rfl]
    have hduration : place.source.isDuration = false := by
      cases hsource : place.source <;> simp_all [Source.isDate, Source.isDuration]
    cases hshift : Duration.ofText? text with
    | some shift =>
      have htext : Grammar.IsDurationText text := by
        rw [Grammar.IsDurationText, hshift]
        rfl
      exact iff_of_true (accepts_ok _) (.dateText hdate (.inl htext))
    | none =>
      show Accepts ((dateOfText place text).map date) ↔ _
      rw [accepts_map_iff, accepts_dateOfText_iff]
      constructor
      · intro h
        exact .dateText hdate (.inr h)
      · intro h
        cases h with
        | dateText _ h =>
          cases h with
          | inl h => simp [Grammar.IsDurationText, hshift] at h
          | inr h => exact h
        | durationText h => simp [hduration] at h
        | text h => simp [hdate] at h
  | false =>
    rw [if_neg Bool.false_ne_true]
    cases hduration : place.source.isDuration with
    | true =>
      rw [if_pos rfl, accepts_map_iff, accepts_durationOf_iff]
      constructor
      · intro h
        obtain ⟨_, heq, h⟩ := h
        cases heq
        exact .durationText hduration h
      · intro h
        cases h with
        | dateText h => simp [hdate] at h
        | durationText _ h => exact ⟨text, rfl, h⟩
        | text _ h => simp [hduration] at h
    | false =>
      rw [if_neg Bool.false_ne_true]
      exact iff_of_true (accepts_ok _) (.text hdate hduration)

theorem accepts_ofJson_iff (hroom : place.HasRoom json) :
    Accepts (ofJson place json) ↔ Grammar.IsLiteral place.source json := by
  cases json with
  | null =>
    refine iff_of_false (not_accepts_reject _ _) fun h => ?_
    cases h
  | bool value => exact iff_of_true (accepts_ok _) .boolean
  | number value => exact accepts_ofNumber_iff
  | string value => exact accepts_ofText_iff
  | array items =>
    refine iff_of_false (not_accepts_reject _ _) fun h => ?_
    cases h
  | object members =>
    match members with
    | [] =>
      refine iff_of_false (not_accepts_reject _ _) fun h => ?_
      cases h
    | [(type, body)] =>
      obtain ⟨child, hchild, _, hinner⟩ := hroom.key List.mem_cons_self
      rw [ofJson, hchild]
      show Accepts (ofTyped child type body) ↔ _
      rw [accepts_ofTyped_iff hinner]
      constructor
      · exact .typed
      · intro h
        cases h with
        | typed h => exact h
    | _ :: _ :: _ =>
      refine iff_of_false (not_accepts_reject _ _) fun h => ?_
      cases h

/-- A literal that is read as an area was written as one. -/
theorem isArea_of_ofJson {found : Geo.Area} (hroom : place.HasRoom json)
    (h : ofJson place json = .ok (area found)) : Grammar.IsArea json := by
  cases json with
  | null => cases h
  | bool value => cases h
  | number value =>
    rw [ofJson, ofNumber] at h
    split at h
    · simp [map_eq_ok_iff] at h
    · split at h <;> cases h
  | string value =>
    rw [ofJson, ofText] at h
    split at h
    · split at h
      · cases h
      · simp [map_eq_ok_iff] at h
    · split at h
      · simp [map_eq_ok_iff] at h
      · cases h
  | array items => cases h
  | object members =>
    match members with
    | [] => cases h
    | [(type, body)] =>
      obtain ⟨child, hchild, _, hinner⟩ := hroom.key List.mem_cons_self
      rw [ofJson, hchild] at h
      replace h : ofTyped child type body = .ok (area found) := h
      unfold ofTyped at h
      split at h
      · split at h <;> simp [map_eq_ok_iff, reject_ne_ok] at h
      split at h
      · split at h <;> simp [map_eq_ok_iff] at h
      split at h
      · simp [map_eq_ok_iff] at h
      split at h
      · rename_i htype
        obtain ⟨circle, hcircle, _⟩ := map_eq_ok_iff.1 h
        rw [htype]
        exact .circle ((accepts_circleOf_iff hinner).1 ⟨_, hcircle⟩)
      split at h
      · rename_i htype
        obtain ⟨box, hbox, _⟩ := map_eq_ok_iff.1 h
        rw [htype]
        exact .box (accepts_boxOf_iff.1 ⟨_, hbox⟩)
      · cases h
    | _ :: _ :: _ => cases h

theorem accepts_areaOfJson_iff (hroom : place.HasRoom json) :
    Accepts (areaOfJson place json) ↔ Grammar.IsArea json := by
  rw [areaOfJson, accepts_bind_iff]
  constructor
  · intro h
    obtain ⟨literal, hliteral, h⟩ := h
    split at h
    · exact isArea_of_ofJson hroom hliteral
    · exact absurd h (not_accepts_reject _ _)
  · intro h
    cases h with
    | circle h =>
      obtain ⟨child, hchild, _, hinner⟩ := hroom.key List.mem_cons_self
      obtain ⟨circle, hcircle⟩ := (accepts_circleOf_iff hinner).2 h
      refine ⟨area (.circle circle), ?_, accepts_ok _⟩
      rw [ofJson, hchild]
      exact map_eq_ok_iff.2 ⟨circle, hcircle, rfl⟩
    | box h =>
      obtain ⟨child, hchild, _, _⟩ := hroom.key List.mem_cons_self
      have haccepts : Accepts (boxOf child _) := accepts_boxOf_iff.2 h
      obtain ⟨box, hbox⟩ := haccepts
      refine ⟨area (.box box), ?_, accepts_ok _⟩
      rw [ofJson, hchild]
      exact map_eq_ok_iff.2 ⟨box, hbox, rfl⟩

end Audience.Literal
