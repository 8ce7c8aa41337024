import Audience.Proofs.Criterion.PresenceForms
import Audience.Proofs.Duration.Shift

/-!
# Two ways to ask how long ago something changed

That something changed after the instant a duration ago is asked of the date of the change, with the
duration towards earlier, or of the time since the change. The first is decided by moving the instant
of evaluation back, the second by moving the instant of the change forward. Without years and months
in the duration both moves are by the same number of milliseconds.

* **`Recency.Relation`**, **`Recency.Relation.mirrored`**: what is asked of the date, and of the time.
* **`Situation.exists_instant`**: the instants of last changes are instants of the calendar.
* **`Recency.testHolds_sinceDate`**, **`Recency.testHolds_elapsedTime`**: how each way is decided.
* **`Recency.since_and_elapsed_agree`**: both ways give the same verdict.
-/

namespace Audience

/-! ### Instants of last changes -/

namespace Situation

variable {situation : Situation}

theorem exists_instant_ofRecord {record : Option Record} {since : Int}
    (h : (Resolution.ofRecord record).changedAt = some since) :
    ∃ instant : Instant, instant.millis = since := by
  cases record with
  | none => cases h
  | some record =>
    cases hsince : record.presenceSince with
    | none => simp [Resolution.ofRecord, Resolution.changedAt, Resolution.observed, hsince] at h
    | some instant =>
      refine ⟨instant, ?_⟩
      simpa [Resolution.ofRecord, Resolution.changedAt, Resolution.observed, hsince] using h

theorem exists_instant_ofInstant {instant : Option Instant} {since : Int}
    (h : (Resolution.ofInstant instant).changedAt = some since) :
    ∃ instant : Instant, instant.millis = since := by
  cases instant with
  | none => cases h
  | some instant => exact ⟨instant, Option.some.inj h⟩

theorem exists_instant_map {instant : Option Instant} {since : Int}
    (h : instant.map Instant.millis = some since) : ∃ instant : Instant, instant.millis = since := by
  obtain ⟨instant, _, h⟩ := Option.map_eq_some_iff.1 h
  exact ⟨instant, h⟩

/-- What is known of the last change of a source is an instant. -/
theorem exists_instant {source : Source} {since : Int}
    (h : (situation.resolve source).changedAt = some since) :
    ∃ instant : Instant, instant.millis = since := by
  induction source generalizing since with
  | installation | user | event => exact exists_instant_ofRecord h
  | lastActivity parent | locationDate parent => exact exists_instant_ofInstant h
  | field parent path =>
    rw [resolve, resolveField] at h
    dsimp only at h
    split at h
    · unfold fieldOf at h
      split at h
      · exact exists_instant_map h
      · cases h
    · cases h
  | sinceDate parent ih | elapsedTime parent ih =>
    rw [resolve] at h
    cases hparent : (situation.resolve parent).changedAt with
    | none =>
      rw [hparent] at h
      cases h
    | some changed =>
      rw [hparent] at h
      cases h
      exact ih hparent
  | location parent =>
    rw [resolve] at h
    split at h
    · unfold locationOf at h
      split at h
      · exact exists_instant_map h
      · cases h
    · cases h

end Situation

namespace Recency

/-! ### Relations -/

/-- What is asked of an instant or of a length of time. -/
inductive Relation
  | equal
  | order (operator : Operator)
  deriving DecidableEq

namespace Relation

/-- The keyword of a relation. -/
def keyword : Relation → Keyword
  | equal => .equal
  | order operator => .order operator

/-- The test of a relation to a literal. -/
def test : Relation → Literal → Test
  | equal => .equal
  | order operator => .order operator

/-- Whether an order satisfies a relation. -/
def accepts : Relation → Ordering → Bool
  | equal, found => found == .eq
  | order operator, found => operator.accepts found

/-- The relation with its sides changed. -/
def mirrored : Relation → Relation
  | equal => equal
  | order .greater => order .less
  | order .greaterOrEqual => order .lessOrEqual
  | order .less => order .greater
  | order .lessOrEqual => order .greaterOrEqual

theorem accepts_mirrored (relation : Relation) (found : Ordering) :
    relation.mirrored.accepts found.swap = relation.accepts found := by
  cases relation with
  | equal => cases found <;> rfl
  | order operator => cases operator <;> cases found <;> rfl

end Relation

/-! ### Documents -/

/-- A presence whose date of change stands in a relation to what a text spells. -/
def sinceDate (relation : Relation) (text : String) : Json :=
  PresenceForm.within true (some (.object [(relation.keyword.key, .string text)])) none

/-- A presence whose time since the change stands in a relation to what a text spells. -/
def elapsedTime (relation : Relation) (text : String) : Json :=
  PresenceForm.within true none (some (.object [(relation.keyword.key, .string text)]))

variable {source : Source} {relation : Relation} {text : String} {d : Duration}

/-- A relation to a literal is asked of a value under the keyword of the relation. -/
theorem meaning_relation {value : Json} {literal : Literal} (hroot : source.isRoot = false)
    (hliteral : Semantics.literal? source value = some literal) :
    Criterion.meaning? source (.object [(relation.keyword.key, value)]) =
      some (.test () source (relation.test literal)) := by
  have hasks : relation.keyword.asks = true := by cases relation <;> rfl
  have hasked : Semantics.question? source relation.keyword value = some (relation.test literal) := by
    cases relation with
    | equal => exact congrArg (Option.map Test.equal) hliteral
    | order operator => exact congrArg (Option.map (Test.order operator)) hliteral
  rw [Criterion.meaning_question hasks hroot, hasked]
  rfl

theorem meaning_sinceDate (h : Duration.ofText? text = some d) :
    Criterion.meaning? source (sinceDate relation text) =
      some (.presence () source true
        (some (.test () (.sinceDate source) (relation.test (.relativeDate d)))) none) := by
  have hliteral : Semantics.literal? (.sinceDate source) (.string text) =
      some (.relativeDate d) := by
    show (Literal.ofText (Criterion.roomFor (.sinceDate source) (.string text)) text).toOption = _
    rw [Literal.ofText, h]
    rfl
  rw [sinceDate, Criterion.meaning_within]
  show ((Criterion.meaning? (.sinceDate source) _).map some).bind _ = _
  rw [meaning_relation rfl hliteral]
  rfl

theorem meaning_elapsedTime (h : Duration.ofText? text = some d) :
    Criterion.meaning? source (elapsedTime relation text) =
      some (.presence () source true none
        (some (.test () (.elapsedTime source) (relation.test (.duration d))))) := by
  have hliteral : Semantics.literal? (.elapsedTime source) (.string text) =
      some (.duration d) := by
    show (Literal.ofText (Criterion.roomFor (.elapsedTime source) (.string text)) text).toOption = _
    rw [Literal.ofText, Literal.durationOf, Duration.ofJson, h]
    rfl
  rw [elapsedTime, Criterion.meaning_within]
  show ((Criterion.meaning? (.elapsedTime source) _).map some).map _ = _
  rw [meaning_relation rfl hliteral]
  rfl

/-! ### Verdicts -/

section

variable {situation : Situation}

/-- A value that is no array stands in a relation to a literal if its order to the literal does. -/
theorem passes_relation {datum : Datum} {now : Int} {literal : Literal}
    (hitem : ∀ test, datum.someItem test = test datum) (relation : Relation) :
    datum.passes now (relation.test literal) =
      (datum.order? now literal).any relation.accepts := by
  cases relation with
  | equal =>
    rw [Relation.test, Datum.passes, Datum.hasEqual, hitem, Datum.equals]
    cases datum.order? now literal with
    | none => rfl
    | some found => exact Option.some_beq_some
  | order operator =>
    rw [Relation.test, Datum.passes, Datum.isOrdered, hitem]
    rfl

/-- The date of the last change is compared with the instant of evaluation moved by the duration. -/
theorem testHolds_sinceDate (source : Source) (relation : Relation) (d : Duration) :
    Criterion.testHolds situation (.sinceDate source) (relation.test (.relativeDate d)) =
      (situation.resolve source).changedAt.any fun since =>
        relation.accepts (compare since (d.apply situation.now)) := by
  rw [Criterion.testHolds, Situation.resolve]
  cases (situation.resolve source).changedAt with
  | none => rfl
  | some since => exact passes_relation (fun _ => rfl) relation

/-- The instant of evaluation is compared with the last change moved by the duration. -/
theorem testHolds_elapsedTime (source : Source) (relation : Relation) (d : Duration) :
    Criterion.testHolds situation (.elapsedTime source) (relation.test (.duration d)) =
      (situation.resolve source).changedAt.any fun since =>
        relation.accepts (compare situation.now (d.apply since)) := by
  rw [Criterion.testHolds, Situation.resolve]
  cases (situation.resolve source).changedAt with
  | none => rfl
  | some since => exact passes_relation (fun _ => rfl) relation

/-- A presence that is asked for, with one comparison that fails where no change is known. -/
theorem holds_presence {since elapsed : Option (Criterion Unit)} {changed : Int → Bool}
    (hgiven : (Criterion.holdsIfGiven situation since && Criterion.holdsIfGiven situation elapsed) =
      (situation.resolve source).changedAt.any changed) :
    (Criterion.presence () source true since elapsed).holds situation =
      (situation.resolve source).changedAt.any changed := by
  rw [Criterion.holds, ← hgiven, Situation.observe]
  cases hobserved : (situation.resolve source).observed with
  | none =>
    have hchanged : (situation.resolve source).changedAt = none := by
      rw [Resolution.changedAt, hobserved]
      rfl
    rw [hchanged] at hgiven
    rw [hgiven]
    rfl
  | some observation => rw [Bool.true_and]

theorem holds_sinceDate (source : Source) (relation : Relation) (d : Duration) :
    (Criterion.presence () source true
        (some (.test () (.sinceDate source) (relation.test (.relativeDate d)))) none).holds
        situation =
      (situation.resolve source).changedAt.any fun since =>
        relation.accepts (compare since (d.apply situation.now)) := by
  refine holds_presence ?_
  rw [← testHolds_sinceDate]
  exact Bool.and_true _

theorem holds_elapsedTime (source : Source) (relation : Relation) (d : Duration) :
    (Criterion.presence () source true none
        (some (.test () (.elapsedTime source) (relation.test (.duration d))))).holds situation =
      (situation.resolve source).changedAt.any fun since =>
        relation.accepts (compare situation.now (d.apply since)) := by
  refine holds_presence ?_
  rw [← testHolds_elapsedTime]
  exact Bool.true_and _

end

/-! ### Agreement -/

/-- Whether an instant is moved back or another one forward, they are ordered in opposite ways. -/
theorem compare_swap (now since span : Int) :
    compare now (since + span) = (compare since (now - span)).swap := by
  show compareOfLessAndEq now (since + span) = (compareOfLessAndEq since (now - span)).swap
  unfold compareOfLessAndEq
  obtain hlt | heq | hgt := Int.lt_trichotomy now (since + span)
  · rw [if_pos hlt, if_neg (by omega), if_neg (by omega)]
    rfl
  · rw [if_neg (by omega), if_pos heq, if_neg (by omega), if_pos (by omega)]
    rfl
  · rw [if_neg (by omega), if_neg (by omega), if_pos (by omega)]
    rfl

/-- The shift of the instant of evaluation back, and that of the last change forward, stay in the
calendar range. -/
structure InRange (situation : Situation) (source : Source) (span : Int) : Prop where
  now : InCalendar situation.now
  back : InCalendar (situation.now - span)
  forward : ∀ since, (situation.resolve source).changedAt = some since → InCalendar (since + span)

/-- In the calendar range the relation of the last change to the instant a duration ago is the
mirrored one of the instant of evaluation to the last change moved by the duration. -/
theorem accepts_opposite {situation : Situation} {since : Int} (hpositive : d.positive = true)
    (hyears : d.years = .zero) (hmonths : d.months = .zero)
    (hrange : InRange situation source d.span)
    (hsince : (situation.resolve source).changedAt = some since) (relation : Relation) :
    relation.accepts (compare since (d.opposite.apply situation.now)) =
      relation.mirrored.accepts (compare situation.now (d.apply since)) := by
  have hdirected : d.directed d.span = d.span := if_pos hpositive
  have hopposite : d.opposite.directed d.opposite.span = -d.span := by
    rw [Duration.directed_opposite]
    exact congrArg Neg.neg hdirected
  have hback : d.opposite.apply situation.now = situation.now - d.span := by
    have hend : InCalendar (situation.now + d.opposite.directed d.opposite.span) := by
      rw [hopposite]
      exact hrange.back
    rw [Duration.apply_eq (d := d.opposite) hyears hmonths hrange.now hend, hopposite]
    rfl
  have hforward : d.apply since = since + d.span := by
    have hchanged : InCalendar (since + d.span) := hrange.forward since hsince
    have hstart : InCalendar since := by
      -- the last second may take in a leap second, but no span leads back from there
      obtain ⟨instant, hinstant⟩ := Situation.exists_instant hsince
      have hfirst := instant.in_range.1
      have hspan := d.span_nonneg
      refine ⟨?_, ?_⟩
      · rw [← hinstant, Instant.millis]
        omega
      · exact Int.le_trans (by omega) hchanged.2
    have hend : InCalendar (since + d.directed d.span) := by rwa [hdirected]
    rw [Duration.apply_eq hyears hmonths hstart hend, hdirected]
  rw [hback, hforward, compare_swap, Relation.accepts_mirrored]

/-- For a duration without years and months, that the last change stands in a relation to the instant
that long ago is accepted and is decided as that the time since the change stands in the mirrored
relation to that long, as long as the calendar range is not left. -/
theorem since_and_elapsed_agree (place : Place) (relation : Relation) (text : String) (d : Duration)
    (htext : Duration.ofText? ("P" ++ text) = some d) (hyears : d.years = .zero)
    (hmonths : d.months = .zero) (hsince : place.InLimits (sinceDate relation ("-P" ++ text)))
    (helapsed : place.InLimits (elapsedTime relation.mirrored ("P" ++ text))) :
    ∃ c c', Criterion.read (sinceDate relation ("-P" ++ text)) place = .ok c ∧
      Criterion.read (elapsedTime relation.mirrored ("P" ++ text)) place = .ok c' ∧
      ∀ situation, InRange situation place.source d.span →
        c.holds situation = c'.holds situation := by
  obtain ⟨_, hminus⟩ := Duration.ofText?_minus htext
  obtain ⟨c, hc, hcholds⟩ := Criterion.exists_read hsince (meaning_sinceDate hminus)
  obtain ⟨c', hc', hcholds'⟩ := Criterion.exists_read helapsed (meaning_elapsedTime htext)
  refine ⟨c, c', hc, hc', ?_⟩
  intro situation hrange
  rw [hcholds, hcholds', holds_sinceDate, holds_elapsedTime]
  cases hchanged : (situation.resolve place.source).changedAt with
  | none => rfl
  | some since =>
    have hpositive := (Duration.ofText?_minus htext).1
    exact accepts_opposite hpositive hyears hmonths hrange hchanged relation

/-- A session of the installation that started less than a day and a half hour ago, or earlier. -/
theorem since_and_elapsed_agree_day :
    ∃ (d : Duration) (c c' : PlacedCriterion) (situation : Situation),
      Duration.ofText? ("P" ++ "1DT0.5H") = some d ∧ d.years = .zero ∧ d.months = .zero ∧
      Criterion.read (sinceDate (.order .greater) ("-P" ++ "1DT0.5H")) (.root .standard) = .ok c ∧
      Criterion.read (elapsedTime (.order .less) ("P" ++ "1DT0.5H")) (.root .standard) = .ok c' ∧
      InRange situation .installation d.span ∧ c.holds situation = c'.holds situation := by
  have hread : (Duration.ofText? ("P" ++ "1DT0.5H")).map (fun d => (d.years, d.months, d.span)) =
      some (.zero, .zero, 88200000) := by decide +kernel
  obtain ⟨d, htext, hparts⟩ := Option.map_eq_some_iff.1 hread
  obtain ⟨hyears, hmonths, hspan⟩ : d.years = .zero ∧ d.months = .zero ∧ d.span = 88200000 := by
    simpa using hparts
  obtain ⟨c, c', hc, hc', hagree⟩ := since_and_elapsed_agree (.root .standard) (.order .greater)
    "1DT0.5H" d htext hyears hmonths
    (.room (by unfold Place.HasRoom; decide +kernel))
    (.room (by unfold Place.HasRoom; decide +kernel))
  let situation : Situation :=
    .ofSubject ⟨some (Record.empty.withPresenceSince .epoch), none, []⟩ 1700000000000
  have hrange : InRange situation .installation d.span := by
    rw [hspan]
    refine ⟨by decide +kernel, by decide +kernel, ?_⟩
    intro since hsince
    have hepoch : since = 0 := (Option.some.inj hsince).symm
    rw [hepoch]
    decide +kernel
  exact ⟨d, c, c', situation, htext, hyears, hmonths, hc, hc', hrange, hagree situation hrange⟩

end Recency

end Audience
