import Audience.Proofs.Criterion.FieldNesting
import Audience.Proofs.Duration.Spelling
import Audience.Proofs.Literal.Outcome

/-!
# Literals without a type

Under a source of instants a text or number alone may be a date or a move from the instant of
evaluation, and under one of lengths of time it is a duration. It is what the same text or number
spells with its type. No text is both of what an instant may be: what spells a duration has a `P`
where a date has its year.

* **`Duration.date_eq_none`**: what spells a duration spells no date.
* **`Literal.typed`**, **`Literal.IsBare`**: literals with and without a type.
* **`Literal.bare_is_shorthand`**: a bare literal is the typed one, and only bare ones depend on the
  source.
-/

namespace Audience

/-! ### Durations are no dates -/

namespace Duration

variable {text : List Char} {d : Duration}

-- the scans stop within the first three characters, which the sign and the `P` are among
theorem Spelling.strict?_chars (s : Spelling) : Timestamp.strict? s.chars = none := by
  obtain ⟨sign, years, months, weeks, days, clock⟩ := s
  obtain _ | _ | _ := sign <;> rfl

theorem Spelling.day?_chars (s : Spelling) : Timestamp.day? s.chars = none := by
  obtain ⟨sign, years, months, weeks, days, clock⟩ := s
  obtain _ | _ | _ := sign <;> rfl

/-- What spells a duration spells no date. -/
theorem date_eq_none (h : ofChars? text = some d) :
    (Timestamp.strict? text <|> Timestamp.day? text) = none := by
  obtain ⟨s, rfl⟩ := Spelling.exists_of_ofChars? h
  rw [s.strict?_chars, s.day?_chars]
  rfl

end Duration

namespace Literal

variable {place : Place} {x : Json} {literal : Literal}

/-! ### Typed values -/

/-- An object with one key, which names the type of what stands under it. -/
def typed (type : String) (value : Json) : Json := .object [(type, value)]

/-- A text or a number. -/
inductive IsBare : Json → Prop
  | text (value : String) : IsBare (.string value)
  | number (value : Json.Number) : IsBare (.number value)

/-- The instant that a text or a number is as a date. -/
def date? : Json → Option Instant
  | .string written => Timestamp.strict? written.toList <|> Timestamp.day? written.toList
  | .number value => Instant.ofMillis? value.toBinary64.toWord
  | _ => none

/-- The duration that a text spells. -/
def spelled? : Json → Option Duration
  | .string written => Duration.ofText? written
  | _ => none

/-- The duration that a text or a number is. -/
def duration? : Json → Option Duration
  | .number value => some (.ofMillis value.toBinary64)
  | json => spelled? json

theorem durationOf_eq_ok_iff_spelled {d : Duration} :
    durationOf place x = .ok d ↔ spelled? x = some d := by
  rw [durationOf_eq_ok_iff]
  cases x with
  | string written => simp [spelled?]
  | null | bool | number | array | object => simp [spelled?]

theorem ofTyped_relativeDate_eq_ok_iff :
    ofTyped place "relativeDate" x = .ok literal ↔
      ∃ d, spelled? x = some d ∧ relativeDate d = literal := by
  show (durationOf place x).map relativeDate = _ ↔ _
  simp only [map_eq_ok_iff, durationOf_eq_ok_iff_spelled]

theorem ofTyped_date_eq_ok_iff :
    ofTyped place "date" x = .ok literal ↔ ∃ t, date? x = some t ∧ date t = literal := by
  cases x with
  | string written =>
    show (dateOfText place written).map date = _ ↔ _
    simp only [map_eq_ok_iff, dateOfText_eq_ok_iff, date?]
  | number value =>
    show (dateOfMillis place value.toBinary64).map date = _ ↔ _
    simp only [map_eq_ok_iff, dateOfMillis_eq_ok_iff, date?]
  | null | bool | array | object => simp [ofTyped, date?, reject_ne_ok]

theorem ofTyped_duration_eq_ok_iff :
    ofTyped place "duration" x = .ok literal ↔ ∃ d, duration? x = some d ∧ duration d = literal := by
  cases x with
  | number value =>
    show Except.ok (duration (.ofMillis value.toBinary64)) = _ ↔ _
    simp [duration?]
  | null | bool | string | array | object =>
    simp [ofTyped, map_eq_ok_iff, durationOf_eq_ok_iff_spelled, duration?]

/-- A typed value is read behind its type name, which the depth limit must allow. -/
theorem ofJson_typed_eq_ok_iff {type : String} {p : Prop}
    (h : ∀ child, ofTyped child type x = .ok literal ↔ p) :
    ofJson place (typed type x) = .ok literal ↔ place.depth < place.limits.maxDepth ∧ p := by
  refine bind_eq_ok_iff.trans ⟨?_, ?_⟩
  · rintro ⟨child, hchild, hread⟩
    exact ⟨(Place.enter_eq_ok_iff.1 hchild).1, (h child).1 hread⟩
  · rintro ⟨hdepth, hp⟩
    exact ⟨_, Place.enter_eq_ok_iff.2 ⟨hdepth, rfl⟩, (h _).2 hp⟩

theorem ofJson_relativeDate_eq_ok_iff :
    ofJson place (typed "relativeDate" x) = .ok literal ↔
      place.depth < place.limits.maxDepth ∧ ∃ d, spelled? x = some d ∧ relativeDate d = literal :=
  ofJson_typed_eq_ok_iff fun _ => ofTyped_relativeDate_eq_ok_iff

theorem ofJson_date_eq_ok_iff :
    ofJson place (typed "date" x) = .ok literal ↔
      place.depth < place.limits.maxDepth ∧ ∃ t, date? x = some t ∧ date t = literal :=
  ofJson_typed_eq_ok_iff fun _ => ofTyped_date_eq_ok_iff

theorem ofJson_duration_eq_ok_iff :
    ofJson place (typed "duration" x) = .ok literal ↔
      place.depth < place.limits.maxDepth ∧ ∃ d, duration? x = some d ∧ duration d = literal :=
  ofJson_typed_eq_ok_iff fun _ => ofTyped_duration_eq_ok_iff

/-- Nothing is a date and a move from the instant of evaluation. -/
theorem date?_eq_none {d : Duration} (h : spelled? x = some d) : date? x = none := by
  cases x with
  | string written => exact Duration.date_eq_none h
  | null | bool | number | array | object => cases h

/-! ### Bare values -/

theorem ofJson_bare_date_eq_ok_iff (hbare : IsBare x) (hdate : place.source.isDate = true) :
    ofJson place x = .ok literal ↔
      (∃ d, spelled? x = some d ∧ relativeDate d = literal) ∨
        ∃ t, date? x = some t ∧ date t = literal := by
  cases hbare with
  | number value =>
    show ofNumber place _ = _ ↔ _
    rw [ofNumber, if_pos hdate, map_eq_ok_iff]
    simp only [dateOfMillis_eq_ok_iff, date?, spelled?, reduceCtorEq, false_and, exists_false,
      false_or]
  | text written =>
    show ofText place _ = _ ↔ _
    rw [ofText, if_pos hdate]
    cases hspelled : Duration.ofText? written with
    | none =>
      show (dateOfText place written).map date = _ ↔ _
      rw [map_eq_ok_iff]
      simp [dateOfText_eq_ok_iff, date?, spelled?, hspelled]
    | some d =>
      have hnone : date? (.string written) = none := date?_eq_none hspelled
      simp [hnone, spelled?, hspelled]

theorem ofJson_bare_duration_eq_ok_iff (hbare : IsBare x)
    (hduration : place.source.isDuration = true) :
    ofJson place x = .ok literal ↔ ∃ d, duration? x = some d ∧ duration d = literal := by
  have hdate : place.source.isDate = false := by
    cases hsource : place.source <;> simp_all [Source.isDate, Source.isDuration]
  cases hbare with
  | number value =>
    show ofNumber place _ = _ ↔ _
    rw [ofNumber, hdate, hduration]
    simp [duration?]
  | text written =>
    show ofText place _ = _ ↔ _
    rw [ofText, hdate, hduration, if_neg Bool.false_ne_true, if_pos rfl, map_eq_ok_iff]
    simp only [durationOf_eq_ok_iff_spelled, duration?]

/-! ### Both ways to write a literal -/

/-- No value is both a date and a move from the instant of evaluation. Under a source of instants a text
or number is what it is as one of these, and under a source of lengths of time what it is as a duration,
but that the type takes one more step, which the depth limit must allow. What an object spells depends
on no source. -/
theorem bare_is_shorthand (place : Place) :
    (∀ x, ¬ (Accepts (ofJson place (typed "relativeDate" x)) ∧
      Accepts (ofJson place (typed "date" x)))) ∧
    (∀ x, IsBare x → ∀ literal,
      (place.source.isDate = true →
        (ofJson place (typed "relativeDate" x) = .ok literal ∨
            ofJson place (typed "date" x) = .ok literal ↔
          place.depth < place.limits.maxDepth ∧ ofJson place x = .ok literal)) ∧
      (place.source.isDuration = true →
        (ofJson place (typed "duration" x) = .ok literal ↔
          place.depth < place.limits.maxDepth ∧ ofJson place x = .ok literal))) ∧
    ∀ source members,
      ofJson (place.withSource source) (.object members) = ofJson place (.object members) := by
  refine ⟨fun x => ?_, fun x hbare literal => ⟨fun hdate => ?_, fun hduration => ?_⟩,
    ofJson_object_withSource place⟩
  · rintro ⟨⟨_, hmoved⟩, _, hdated⟩
    obtain ⟨_, d, hspelled, _⟩ := ofJson_relativeDate_eq_ok_iff.1 hmoved
    obtain ⟨_, t, hdate, _⟩ := ofJson_date_eq_ok_iff.1 hdated
    rw [date?_eq_none hspelled] at hdate
    cases hdate
  · rw [ofJson_relativeDate_eq_ok_iff, ofJson_date_eq_ok_iff, ← and_or_left,
      ofJson_bare_date_eq_ok_iff hbare hdate]
  · rw [ofJson_duration_eq_ok_iff, ofJson_bare_duration_eq_ok_iff hbare hduration]

/-- A week ago, and an hour as a number of milliseconds. -/
theorem bare_is_shorthand_week_hour :
    ∃ literal literal',
      ofJson ⟨.sinceDate .user, [], .standard⟩ (.string "-P7D") = .ok literal ∧
      ofJson ⟨.sinceDate .user, [], .standard⟩ (typed "relativeDate" (.string "-P7D")) =
        .ok literal ∧
      ofJson ⟨.elapsedTime .user, [], .standard⟩ (.number (.integer 3600000 (by decide))) =
        .ok literal' ∧
      ofJson ⟨.elapsedTime .user, [], .standard⟩
        (typed "duration" (.number (.integer 3600000 (by decide)))) = .ok literal' := by
  obtain ⟨_, hsince, _⟩ := bare_is_shorthand ⟨.sinceDate .user, [], .standard⟩
  obtain ⟨_, helapsed, _⟩ := bare_is_shorthand ⟨.elapsedTime .user, [], .standard⟩
  have hweek : (Duration.ofText? "-P7D").isSome = true := by decide +kernel
  obtain ⟨week, hweek⟩ := Option.isSome_iff_exists.1 hweek
  have hmoved : ofJson ⟨.sinceDate .user, [], .standard⟩ (typed "relativeDate" (.string "-P7D")) =
      .ok (relativeDate week) :=
    ofJson_relativeDate_eq_ok_iff.2 ⟨by decide, week, hweek, rfl⟩
  obtain ⟨_, hbareWeek⟩ := ((hsince _ (.text "-P7D") _).1 rfl).1 (.inl hmoved)
  exact ⟨_, _, hbareWeek, hmoved, rfl, ((helapsed _ (.number _) _).2 rfl).2 ⟨by decide, rfl⟩⟩

end Literal

end Audience
