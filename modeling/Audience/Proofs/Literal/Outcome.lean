import Audience.Proofs.Criterion.Grammar
import Audience.Proofs.Outcome

/-!
# When the parts of a literal are read

* **`Instant.isSome_ofMillis?_iff`**: the milliseconds that are an instant.
* **`Literal.dateOfText_eq_ok_iff`**, **`Literal.dateOfMillis_eq_ok_iff`**: dates.
* **`Literal.durationOf_eq_ok_iff`**: durations.
* **`Literal.circleOf_eq_ok_iff`**, **`Literal.boxOf_eq_ok_iff`**: areas, whose numbers are found
  under their keys and are in range.
-/

namespace Audience

/-! ### Instants -/

theorem Instant.isSome_ofMillis?_iff {millis : Int} :
    (Instant.ofMillis? millis).isSome ↔ InCalendar millis := by
  rw [Instant.ofMillis?, Instant.ofSecond?, InCalendar]
  have hlast : lastSecond = 8210266876799 := rfl
  have hfirst : firstSecond = -8334601228800 := rfl
  split
  · simp only [Option.isSome_some, true_iff]
    omega
  · simp only [Option.isSome_none, Bool.false_eq_true, false_iff]
    omega

/-! ### Areas -/

namespace Geo

theorem Location.check_eq_ok_iff {lat lon : Binary64} {location : Location} :
    Location.check lat lon = .ok location ↔
      within 90 lat = true ∧ within 180 lon = true ∧ location = ⟨lat, lon⟩ := by
  rw [Location.check]
  cases hlat : within 90 lat with
  | false => simp
  | true =>
    cases hlon : within 180 lon with
    | false => simp
    | true => simp [eq_comm]

theorem Circle.check_eq_ok_iff {center : Location} {radius : Binary64} {circle : Circle} :
    Circle.check center radius = .ok circle ↔
      radius.isFinite = true ∧ Binary64.zero.atMost radius = true ∧ circle = ⟨center, radius⟩ := by
  rw [Circle.check]
  by_cases h : (radius.isFinite && Binary64.zero.atMost radius) = true
  · rw [if_pos h]
    rw [Bool.and_eq_true] at h
    simp [h.1, h.2, eq_comm]
  · rw [if_neg h]
    rw [Bool.and_eq_true] at h
    constructor
    · intro heq
      cases heq
    · intro hcircle
      obtain ⟨hfinite, hsign, _⟩ := hcircle
      exact absurd ⟨hfinite, hsign⟩ h

theorem Box.check_eq_ok_iff {top right bottom left : Binary64} {box : Box} :
    Box.check top right bottom left = .ok box ↔
      Location.within 90 top = true ∧ Location.within 180 right = true ∧
        Location.within 90 bottom = true ∧ Location.within 180 left = true ∧
          top.below bottom = false ∧ box = ⟨top, right, bottom, left⟩ := by
  rw [Box.check]
  cases hfirst : Location.check top right with
  | error fault =>
    constructor
    · intro h
      cases h
    · intro h
      obtain ⟨htop, hright, _⟩ := h
      rw [Location.check_eq_ok_iff.2 ⟨htop, hright, rfl⟩] at hfirst
      cases hfirst
  | ok corner =>
    obtain ⟨htop, hright, _⟩ := Location.check_eq_ok_iff.1 hfirst
    cases hsecond : Location.check bottom left with
    | error fault =>
      constructor
      · intro h
        cases h
      · intro h
        obtain ⟨_, _, hbottom, hleft, _⟩ := h
        rw [Location.check_eq_ok_iff.2 ⟨hbottom, hleft, rfl⟩] at hsecond
        cases hsecond
    | ok corner =>
      obtain ⟨hbottom, hleft, _⟩ := Location.check_eq_ok_iff.1 hsecond
      cases horder : top.below bottom with
      | false => simp [bind, Except.bind, htop, hright, hbottom, hleft, eq_comm]
      | true => simp [bind, Except.bind]

end Geo

namespace Literal

variable {place : Place} {body json : Json}

/-! ### Dates and durations -/

theorem dateOfText_eq_ok_iff {text : String} {instant : Instant} :
    dateOfText place text = .ok instant ↔
      (Timestamp.strict? text.toList <|> Timestamp.day? text.toList) = some instant := by
  rw [dateOfText]
  split
  · rename_i found hfound
    rw [hfound, Except.ok.injEq, Option.some.injEq]
  · rename_i hfound
    rw [hfound]
    simp [reject_ne_ok]

theorem accepts_dateOfText_iff {text : String} :
    Accepts (dateOfText place text) ↔ Grammar.IsDateText text := by
  simp only [Accepts, dateOfText_eq_ok_iff, ← Option.isSome_iff_exists, Grammar.IsDateText]
  cases Timestamp.strict? text.toList <;> simp

theorem dateOfMillis_eq_ok_iff {millis : Binary64} {instant : Instant} :
    dateOfMillis place millis = .ok instant ↔ Instant.ofMillis? millis.toWord = some instant := by
  rw [dateOfMillis]
  cases Instant.ofMillis? millis.toWord with
  | some found => simp
  | none => simp [reject_ne_ok]

theorem accepts_dateOfMillis_iff {value : Json.Number} :
    Accepts (dateOfMillis place value.toBinary64) ↔ Grammar.IsDateNumber value := by
  rw [Grammar.IsDateNumber, ← Instant.isSome_ofMillis?_iff, Option.isSome_iff_exists]
  simp only [Accepts, dateOfMillis_eq_ok_iff]

theorem durationOf_eq_ok_iff {duration : Duration} :
    durationOf place json = .ok duration ↔
      ∃ text, json = .string text ∧ Duration.ofText? text = some duration := by
  unfold durationOf Duration.ofJson
  cases json with
  | string text =>
    cases h : Duration.ofText? text with
    | some found => simp [h]
    | none => simp [h, reject_ne_ok]
  | _ => simp [reject_ne_ok]

theorem accepts_durationOf_iff :
    Accepts (durationOf place json) ↔
      ∃ text, json = .string text ∧ Grammar.IsDurationText text := by
  simp only [Accepts, durationOf_eq_ok_iff, Grammar.IsDurationText, Option.isSome_iff_exists]
  constructor
  · intro h
    obtain ⟨duration, text, hjson, h⟩ := h
    exact ⟨text, hjson, duration, h⟩
  · intro h
    obtain ⟨text, hjson, duration, h⟩ := h
    exact ⟨duration, text, hjson, h⟩

/-! ### Areas -/

theorem numberUnder_eq_ok_iff {key : String} {value : Binary64} :
    numberUnder place body key = .ok value ↔ Grammar.HasNumber body key value := by
  rw [numberUnder, Grammar.HasNumber]
  split
  · rename_i found hfound
    rw [hfound, Except.ok.injEq, Option.some.injEq]
  · rename_i hfound
    rw [hfound]
    simp [reject_ne_ok]

theorem located_eq_ok_iff {α : Type} {result : Except Geo.Fault α} {a : α} :
    located place result = .ok a ↔ result = .ok a := by
  cases result with
  | ok value => simp [located]
  | error fault => simp [located, reject_ne_ok]

theorem locationOf_eq_ok_iff {location : Geo.Location} :
    locationOf place body = .ok location ↔
      Grammar.HasNumber body "lat" location.lat ∧ Grammar.HasNumber body "lon" location.lon ∧
        Geo.Location.within 90 location.lat = true ∧
          Geo.Location.within 180 location.lon = true := by
  simp only [locationOf, bind_eq_ok_iff, numberUnder_eq_ok_iff, located_eq_ok_iff,
    Geo.Location.check_eq_ok_iff]
  constructor
  · intro h
    rcases h with ⟨lat, hlat, lon, hlon, hlatRange, hlonRange, rfl⟩
    exact ⟨hlat, hlon, hlatRange, hlonRange⟩
  · intro h
    obtain ⟨hlat, hlon, hlatRange, hlonRange⟩ := h
    exact ⟨_, hlat, _, hlon, hlatRange, hlonRange, rfl⟩

theorem circleOf_eq_ok_iff {circle : Geo.Circle} :
    circleOf place body = .ok circle ↔
      ∃ center child, body.member? "center" = some center ∧ place.key "center" = .ok child ∧
        locationOf child center = .ok circle.center ∧
          Grammar.HasNumber body "radius" circle.radius ∧ circle.radius.isFinite = true ∧
            Binary64.zero.atMost circle.radius = true := by
  rw [circleOf]
  cases body.member? "center" with
  | none => simp [reject_ne_ok]
  | some center =>
    simp only [bind_eq_ok_iff, numberUnder_eq_ok_iff, located_eq_ok_iff,
      Geo.Circle.check_eq_ok_iff]
    constructor
    · intro h
      rcases h with ⟨child, hchild, location, hlocation, radius, hradius, hfinite, hsign, rfl⟩
      exact ⟨center, child, rfl, hchild, hlocation, hradius, hfinite, hsign⟩
    · intro h
      obtain ⟨_, child, hcenter, hchild, hlocation, hradius, hfinite, hsign⟩ := h
      cases hcenter
      exact ⟨child, hchild, _, hlocation, _, hradius, hfinite, hsign, rfl⟩

theorem boxOf_eq_ok_iff {box : Geo.Box} :
    boxOf place body = .ok box ↔
      (Grammar.HasNumber body "top" box.top ∧ Grammar.HasNumber body "right" box.right ∧
        Grammar.HasNumber body "bottom" box.bottom ∧ Grammar.HasNumber body "left" box.left) ∧
      (Geo.Location.within 90 box.top = true ∧ Geo.Location.within 180 box.right = true ∧
        Geo.Location.within 90 box.bottom = true ∧ Geo.Location.within 180 box.left = true ∧
          box.top.below box.bottom = false) := by
  simp only [boxOf, bind_eq_ok_iff, numberUnder_eq_ok_iff, located_eq_ok_iff,
    Geo.Box.check_eq_ok_iff]
  constructor
  · intro h
    rcases h with ⟨top, htop, right, hright, bottom, hbottom, left, hleft, h₁, h₂, h₃, h₄, h₅, rfl⟩
    exact ⟨⟨htop, hright, hbottom, hleft⟩, h₁, h₂, h₃, h₄, h₅⟩
  · intro h
    obtain ⟨⟨htop, hright, hbottom, hleft⟩, h₁, h₂, h₃, h₄, h₅⟩ := h
    exact ⟨_, htop, _, hright, _, hbottom, _, hleft, h₁, h₂, h₃, h₄, h₅, rfl⟩

end Literal

end Audience
