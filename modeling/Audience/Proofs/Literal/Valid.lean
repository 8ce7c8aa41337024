import Audience.Proofs.Calendar.Range
import Audience.Proofs.Literal.Outcome
import Audience.Proofs.Numeric.Finite

/-!
# Literals that are read are valid

* **`Literal.Valid`**: numbers are finite, durations have finite amounts that are not negative, dates
  are in the calendar range, and areas have coordinates in range.
* **`Literal.Suits`**: no bare number or text under a source of instants or lengths of time.
* **`Literal.suits_and_valid_of_ofJson`**: what is read as a literal is valid and suits its source.
-/

namespace Audience

namespace Geo

/-- The coordinates are in range. -/
structure Location.Valid (location : Location) : Prop where
  lat : Location.within 90 location.lat = true
  lon : Location.within 180 location.lon = true

/-- The center is valid, and the radius is finite and not negative. -/
structure Circle.Valid (circle : Circle) : Prop where
  center : circle.center.Valid
  finite : circle.radius.isFinite = true
  sign : Binary64.zero.atMost circle.radius = true

/-- The corners are valid, and `bottom` is not above `top`. -/
structure Box.Valid (box : Box) : Prop where
  topRight : (Location.mk box.top box.right).Valid
  bottomLeft : (Location.mk box.bottom box.left).Valid
  order : box.top.below box.bottom = false

/-- The circle or box is valid. -/
def Area.Valid : Area → Prop
  | circle c => c.Valid
  | box b => b.Valid

end Geo

/-- All amounts are finite and not negative. -/
def Duration.Valid (duration : Duration) : Prop :=
  ∀ part ∈ duration.parts, (Binary64.ofMagnitude part).isFinite = true ∧
    Binary64.zero.atMost (Binary64.ofMagnitude part) = true

theorem Duration.valid (duration : Duration) : duration.Valid := by
  intro part _
  exact ⟨Binary64.isFinite_ofMagnitude part, Binary64.zero_atMost_ofMagnitude part⟩

namespace Literal

/-- The literal denotes something that can be compared with. -/
def Valid : Literal → Prop
  | boolean _ | text _ => True
  | number value => value.isFinite = true
  | date value => InCalendar value.millis
  | duration value | relativeDate value => value.Valid
  | area value => value.Valid

/-- The literal may stand under a source: a bare number or text only where the values are neither
instants nor lengths of time. -/
def Suits (source : Source) : Literal → Prop
  | number _ | text _ => source.isDate = false ∧ source.isDuration = false
  | _ => True

variable {place : Place} {json body : Json} {literal : Literal}

/-! ### Parts of literals -/

theorem valid_of_dateOfText {written : String} {instant : Instant}
    (h : dateOfText place written = .ok instant) : InCalendar instant.millis := by
  have hfound := dateOfText_eq_ok_iff.1 h
  cases hstrict : Timestamp.strict? written.toList with
  | some value =>
    rw [hstrict] at hfound
    cases hfound
    exact Timestamp.inCalendar_of_strict? hstrict
  | none =>
    rw [hstrict] at hfound
    exact Timestamp.inCalendar_of_day? hfound

theorem valid_of_dateOfMillis {millis : Binary64} {instant : Instant}
    (h : dateOfMillis place millis = .ok instant) : InCalendar instant.millis :=
  Instant.inCalendar_of_ofMillis? (dateOfMillis_eq_ok_iff.1 h)

theorem valid_of_circleOf {circle : Geo.Circle} (h : circleOf place body = .ok circle) :
    circle.Valid := by
  obtain ⟨_, _, _, _, hlocation, _, hfinite, hsign⟩ := circleOf_eq_ok_iff.1 h
  obtain ⟨_, _, hlat, hlon⟩ := locationOf_eq_ok_iff.1 hlocation
  exact ⟨⟨hlat, hlon⟩, hfinite, hsign⟩

theorem valid_of_boxOf {box : Geo.Box} (h : boxOf place body = .ok box) : box.Valid := by
  obtain ⟨_, htop, hright, hbottom, hleft, horder⟩ := boxOf_eq_ok_iff.1 h
  exact ⟨⟨htop, hright⟩, ⟨hbottom, hleft⟩, horder⟩

/-! ### Literals -/

/-- A typed value suits every source. -/
theorem suits_and_valid_of_ofTyped {type : String} (source : Source)
    (h : ofTyped place type body = .ok literal) : literal.Suits source ∧ literal.Valid := by
  unfold ofTyped at h
  split at h
  · split at h
    · obtain ⟨instant, hinstant, rfl⟩ := map_eq_ok_iff.1 h
      exact ⟨trivial, valid_of_dateOfText hinstant⟩
    · obtain ⟨instant, hinstant, rfl⟩ := map_eq_ok_iff.1 h
      exact ⟨trivial, valid_of_dateOfMillis hinstant⟩
    · exact absurd h (reject_ne_ok _ _ _)
  split at h
  · split at h
    · cases h
      exact ⟨trivial, Duration.valid _⟩
    · obtain ⟨shift, _, rfl⟩ := map_eq_ok_iff.1 h
      exact ⟨trivial, shift.valid⟩
  split at h
  · obtain ⟨shift, _, rfl⟩ := map_eq_ok_iff.1 h
    exact ⟨trivial, shift.valid⟩
  split at h
  · obtain ⟨circle, hcircle, rfl⟩ := map_eq_ok_iff.1 h
    exact ⟨trivial, valid_of_circleOf hcircle⟩
  split at h
  · obtain ⟨box, hbox, rfl⟩ := map_eq_ok_iff.1 h
    exact ⟨trivial, valid_of_boxOf hbox⟩
  · exact absurd h (reject_ne_ok _ _ _)

theorem suits_and_valid_of_ofNumber {value : Json.Number}
    (h : ofNumber place value.toBinary64 = .ok literal) :
    literal.Suits place.source ∧ literal.Valid := by
  rw [ofNumber] at h
  split at h
  · obtain ⟨instant, hinstant, rfl⟩ := map_eq_ok_iff.1 h
    exact ⟨trivial, valid_of_dateOfMillis hinstant⟩
  · rename_i hdate
    split at h
    · cases h
      exact ⟨trivial, Duration.valid _⟩
    · rename_i hduration
      cases h
      rw [Bool.not_eq_true] at hdate hduration
      exact ⟨⟨hdate, hduration⟩, value.isFinite_toBinary64⟩

theorem suits_and_valid_of_ofText {value : String} (h : ofText place value = .ok literal) :
    literal.Suits place.source ∧ literal.Valid := by
  rw [ofText] at h
  split at h
  · split at h
    · cases h
      exact ⟨trivial, Duration.valid _⟩
    · obtain ⟨instant, hinstant, rfl⟩ := map_eq_ok_iff.1 h
      exact ⟨trivial, valid_of_dateOfText hinstant⟩
  · rename_i hdate
    split at h
    · obtain ⟨shift, _, rfl⟩ := map_eq_ok_iff.1 h
      exact ⟨trivial, shift.valid⟩
    · rename_i hduration
      cases h
      rw [Bool.not_eq_true] at hdate hduration
      exact ⟨⟨hdate, hduration⟩, trivial⟩

theorem suits_and_valid_of_ofJson (h : ofJson place json = .ok literal) :
    literal.Suits place.source ∧ literal.Valid := by
  cases json with
  | null => exact absurd h (reject_ne_ok _ _ _)
  | bool value =>
    cases h
    exact ⟨trivial, trivial⟩
  | number value => exact suits_and_valid_of_ofNumber h
  | string value => exact suits_and_valid_of_ofText h
  | array items => exact absurd h (reject_ne_ok _ _ _)
  | object members =>
    match members with
    | [] => exact absurd h (reject_ne_ok _ _ _)
    | [(type, body)] =>
      obtain ⟨_, _, h⟩ := bind_eq_ok_iff.1 h
      exact suits_and_valid_of_ofTyped _ h
    | _ :: _ :: _ => exact absurd h (reject_ne_ok _ _ _)

theorem valid_of_areaOfJson {found : Geo.Area} (h : areaOfJson place json = .ok found) :
    found.Valid := by
  obtain ⟨literal, hliteral, h⟩ := bind_eq_ok_iff.1 h
  have hvalid := (suits_and_valid_of_ofJson hliteral).2
  split at h
  · cases h
    exact hvalid
  · exact absurd h (reject_ne_ok _ _ _)

end Literal

end Audience
