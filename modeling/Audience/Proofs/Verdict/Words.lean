import Audience.Proofs.Duration.Words
import Audience.Proofs.Outcome
import Audience.Proofs.Verdict.Recency

/-!
# Verdicts in 64-bit arithmetic

Evaluation is written here once more with every operation on 64-bit integers checked: the products of a
move by a duration, and the difference of two instants. There is no result where one would overflow.
Parts that a verdict could pass over are evaluated too.

* **`Datum.orderInWords?`**, **`Datum.passesInWords?`**, **`Criterion.holdsInWords?`**: comparison, tests
  and verdicts with checked operations.
* **`Datum.Timed`**, **`Situation.timed_resolve`**: a length of time lies between two instants of the
  calendar, whose difference is far from overflowing.
* **`Criterion.verdict_in_words`**: there always is a result, and it is the verdict.
-/

namespace Audience

/-! ### Differences of instants -/

namespace Instant

theorem millis_bounds (instant : Instant) :
    1000 * firstSecond ≤ instant.millis ∧ instant.millis ≤ 1000 * lastSecond + 1999 := by
  have hrange := instant.in_range
  have hnano := instant.nano_lt
  rw [millis]
  omega

theorem fit?_difference (first second : Instant) :
    Word.fit? (second.millis - first.millis) = some (second.millis - first.millis) := by
  have hfirst := first.millis_bounds
  have hsecond := second.millis_bounds
  have hstart : firstSecond = -8334601228800 := rfl
  have hend : lastSecond = 8210266876799 := rfl
  have hleast : Binary64.leastWord = -(2 ^ 63) := rfl
  have hlargest : Binary64.largestWord = 2 ^ 63 - 1 := rfl
  exact Word.fit?_eq_some (by omega) (by omega)

end Instant

/-! ### Comparison -/

/-- The instant a literal denotes, moves being checked. -/
def Literal.instantInWords? (now : Int) : Literal → Option (Option Int)
  | relativeDate value => (value.applyInWords? now).map some
  | literal => some (literal.instant? now)

theorem Literal.instantInWords?_eq (now : Int) (literal : Literal) :
    literal.instantInWords? now = some (literal.instant? now) := by
  cases literal with
  | relativeDate value => rw [instantInWords?, value.applyInWords?_eq]; rfl
  | _ => rfl

namespace Datum

variable {now : Int} {actual : Datum} {expected : Literal}

/-- A length of time is one between two instants of the calendar. -/
def Timed : Datum → Prop
  | elapsed since upTo =>
      (∃ instant : Instant, instant.millis = since) ∧ ∃ instant : Instant, instant.millis = upTo
  | _ => True

/-- How a JSON number is ordered to a literal, with checked operations. -/
def orderOfNumberInWords? (now : Int) (actual : Binary64) (expected : Literal) :
    Option (Option Ordering) :=
  match expected with
  | .number value => some (actual.order? value)
  | .date _ | .relativeDate _ => do
      let instant ← expected.instantInWords? now
      return instant.bind fun instant => actual.order? (.ofInt instant)
  | _ => some none

/-- How a JSON string is ordered to a literal, with checked operations. -/
def orderOfTextInWords? (now : Int) (actual : String) (expected : Literal) :
    Option (Option Ordering) :=
  match expected with
  | .text value => some (some (compare actual value))
  | .date _ | .relativeDate _ => do
      let instant ← expected.instantInWords? now
      return do return compare (← Timestamp.strict? actual.toList).millis (← instant)
  | _ => some none

/-- How a length of time is ordered to a literal, with checked operations. -/
def orderOfElapsedInWords? (since upTo : Int) (expected : Literal) : Option (Option Ordering) :=
  match expected with
  | .duration value => do return some (compare upTo (← value.applyInWords? since))
  | .number millis => do return (Binary64.ofInt (← Word.fit? (upTo - since))).order? millis
  | _ => some none

/-- How a value is ordered to a literal at an instant, with checked operations. -/
def orderInWords? (now : Int) (actual : Datum) (expected : Literal) : Option (Option Ordering) :=
  match actual with
  | json (.number value) => orderOfNumberInWords? now value.toBinary64 expected
  | json (.string value) => orderOfTextInWords? now value expected
  | date instant => do
      let given ← expected.instantInWords? now
      return given.map (compare instant)
  | elapsed since upTo => orderOfElapsedInWords? since upTo expected
  | _ => some (actual.order? now expected)

theorem orderOfNumberInWords?_eq (now : Int) (actual : Binary64) (expected : Literal) :
    orderOfNumberInWords? now actual expected = some (orderOfNumber? now actual expected) := by
  cases expected with
  | date value | relativeDate value =>
    rw [orderOfNumberInWords?, Literal.instantInWords?_eq]
    rfl
  | _ => rfl

theorem orderOfTextInWords?_eq (now : Int) (actual : String) (expected : Literal) :
    orderOfTextInWords? now actual expected = some (orderOfText? now actual expected) := by
  cases expected with
  | date value | relativeDate value =>
    rw [orderOfTextInWords?, Literal.instantInWords?_eq]
    rfl
  | _ => rfl

theorem orderOfElapsedInWords?_eq {since upTo : Int} (h : (elapsed since upTo).Timed) :
    orderOfElapsedInWords? since upTo expected = some (orderOfElapsed? since upTo expected) := by
  obtain ⟨⟨first, rfl⟩, second, rfl⟩ := h
  cases expected with
  | duration value =>
    rw [orderOfElapsedInWords?, value.applyInWords?_eq]
    rfl
  | number millis =>
    rw [orderOfElapsedInWords?, first.fit?_difference second]
    rfl
  | _ => rfl

/-- Comparison has a result in words. -/
theorem orderInWords?_eq (h : actual.Timed) :
    actual.orderInWords? now expected = some (actual.order? now expected) := by
  cases actual with
  | json value =>
    cases value with
    | number value => exact orderOfNumberInWords?_eq now _ expected
    | string value => exact orderOfTextInWords?_eq now _ expected
    | _ => rfl
  | date instant =>
    rw [orderInWords?, Literal.instantInWords?_eq]
    show some (_ : Option Ordering) = _
    rw [order?]
    cases expected.instant? now <;> rfl
  | elapsed since upTo => exact orderOfElapsedInWords?_eq h
  | location place => rfl

/-! ### Tests -/

/-- Whether an item of an array, or the value itself, passes a test with checked operations. -/
def someItemInWords? (actual : Datum) (test : Datum → Option Bool) : Option Bool :=
  match actual with
  | json (.array items) => do return (← items.mapM fun item => test (json item)).any id
  | _ => test actual

/-- Whether some item equals a literal, with checked operations. -/
def hasEqualInWords? (now : Int) (actual : Datum) (expected : Literal) : Option Bool :=
  actual.someItemInWords? fun item => do return (← item.orderInWords? now expected) == some .eq

/-- Whether a value passes a test, with checked operations. -/
def passesInWords? (now : Int) (actual : Datum) : Test → Option Bool
  | .equal value => actual.hasEqualInWords? now value
  | .any values => do return (← values.mapM (actual.hasEqualInWords? now)).any id
  | .all values => do return (← values.mapM (actual.hasEqualInWords? now)).all id
  | .order operator value =>
      actual.someItemInWords? fun item => do
        return (← item.orderInWords? now value).any operator.accepts
  | test => some (actual.passes now test)

theorem someItemInWords?_eq {test : Datum → Option Bool} {holds : Datum → Bool} (h : actual.Timed)
    (htest : ∀ item : Datum, item.Timed → test item = some (holds item)) :
    actual.someItemInWords? test = some (actual.someItem holds) := by
  cases actual with
  | json value =>
    cases value with
    | array items =>
      rw [someItemInWords?, mapM_eq_some_map fun item _ => htest (json item) trivial]
      simp [someItem]
    | _ => exact htest _ h
  | _ => exact htest _ h

theorem hasEqualInWords?_eq (h : actual.Timed) :
    actual.hasEqualInWords? now expected = some (actual.hasEqual now expected) := by
  refine someItemInWords?_eq h fun item hitem => ?_
  rw [orderInWords?_eq hitem]
  rfl

/-- Tests have a result in words. -/
theorem passesInWords?_eq (h : actual.Timed) (test : Test) :
    actual.passesInWords? now test = some (actual.passes now test) := by
  cases test with
  | equal value => exact hasEqualInWords?_eq h
  | any values =>
    rw [passesInWords?, mapM_eq_some_map fun value _ => hasEqualInWords?_eq h]
    simp [passes]
  | all values =>
    rw [passesInWords?, mapM_eq_some_map fun value _ => hasEqualInWords?_eq h]
    simp [passes, containsAll]
  | order operator value =>
    rw [passesInWords?, passes, isOrdered]
    refine someItemInWords?_eq h fun item hitem => ?_
    rw [orderInWords?_eq hitem]
    rfl
  | startsWith front => rfl
  | inside area => rfl

end Datum

/-! ### Values of sources -/

namespace Situation

variable {situation : Situation} {source : Source} {datum : Datum}

/-- The values of sources at an instant of the calendar. Only the time since a change is a length of
time, and both the change and the instant of evaluation are instants. -/
theorem timed_resolve (hnow : ∃ instant : Instant, instant.millis = situation.now)
    (h : (situation.resolve source).value? = some datum) : datum.Timed := by
  cases source with
  | installation | user | event =>
    unfold resolve Resolution.ofRecord at h
    split at h <;> cases h
  | lastActivity parent | locationDate parent =>
    unfold resolve Resolution.ofInstant at h
    split at h <;> cases h
    trivial
  | field parent path =>
    unfold resolve resolveField fieldOf at h
    dsimp only at h
    split at h
    · split at h <;> cases h
      trivial
    · cases h
  | sinceDate parent =>
    unfold resolve at h
    split at h <;> cases h
    trivial
  | elapsedTime parent =>
    unfold resolve at h
    split at h
    · rename_i hchanged
      cases h
      exact ⟨exists_instant hchanged, hnow⟩
    · cases h
  | location parent =>
    unfold resolve locationOf at h
    split at h
    · split at h <;> cases h
      trivial
    · cases h

end Situation

/-! ### Verdicts -/

namespace Criterion

variable {α : Type}

/-- Whether the value of a source passes a test, with checked operations. -/
def testHoldsInWords? (situation : Situation) (source : Source) (test : Test) : Option Bool :=
  match (situation.resolve source).value? with
  | some datum => datum.passesInWords? situation.now test
  | none => some false

mutual

/-- Whether a criterion holds, with checked operations. -/
def holdsInWords? (situation : Situation) : Criterion α → Option Bool
  | matchAll _ => some true
  | and _ parts => allHoldInWords? situation parts
  | or _ parts => someHoldsInWords? situation parts
  | not _ inner => do return !(← holdsInWords? situation inner)
  | test _ source question => testHoldsInWords? situation source question
  | presence _ source present sinceDate elapsedTime => do
      let since ← holdsIfGivenInWords? situation sinceDate
      let elapsed ← holdsIfGivenInWords? situation elapsedTime
      match situation.observe source with
      | none => return !present
      | some _ => return present && since && elapsed
  | someEvent _ inner => do
      let verdicts ← situation.subject.events.mapM fun event =>
        holdsInWords? (situation.withEvent event) inner
      return verdicts.any id
  | subscription _ source status => some (subscriptionHolds situation source status)

/-- Whether all criteria hold, with checked operations. -/
def allHoldInWords? (situation : Situation) : List (Criterion α) → Option Bool
  | [] => some true
  | part :: rest => do
      let verdict ← holdsInWords? situation part
      return verdict && (← allHoldInWords? situation rest)

/-- Whether some criterion holds, with checked operations. -/
def someHoldsInWords? (situation : Situation) : List (Criterion α) → Option Bool
  | [] => some false
  | part :: rest => do
      let verdict ← holdsInWords? situation part
      return verdict || (← someHoldsInWords? situation rest)

/-- Whether a criterion that may be missing holds, with checked operations. -/
def holdsIfGivenInWords? (situation : Situation) : Option (Criterion α) → Option Bool
  | none => some true
  | some inner => holdsInWords? situation inner

end

section

variable {situation : Situation}

theorem testHoldsInWords?_eq (hnow : ∃ instant : Instant, instant.millis = situation.now)
    (source : Source) (test : Test) :
    testHoldsInWords? situation source test = some (testHolds situation source test) := by
  unfold testHoldsInWords? testHolds
  cases h : (situation.resolve source).value? with
  | none => rfl
  | some datum => exact Datum.passesInWords?_eq (Situation.timed_resolve hnow h) test

mutual

/-- Evaluation at an instant of the calendar has a result in words. -/
theorem holdsInWords?_eq {situation : Situation}
    (hnow : ∃ instant : Instant, instant.millis = situation.now) (c : Criterion α) :
    holdsInWords? situation c = some (c.holds situation) := by
  cases c with
  | matchAll mark => rfl
  | and mark parts => exact allHoldInWords?_eq hnow parts
  | or mark parts => exact someHoldsInWords?_eq hnow parts
  | not mark inner =>
    rw [holdsInWords?, holdsInWords?_eq hnow inner]
    rfl
  | test mark source question => exact testHoldsInWords?_eq hnow source question
  | presence mark source present sinceDate elapsedTime =>
    rw [holdsInWords?, holdsIfGivenInWords?_eq hnow sinceDate,
      holdsIfGivenInWords?_eq hnow elapsedTime, holds]
    cases situation.observe source <;> rfl
  | someEvent mark inner =>
    -- the instant of evaluation is the same whatever event is looked at
    have hevents : ∀ event ∈ situation.subject.events,
        holdsInWords? (situation.withEvent event) inner =
          some (inner.holds (situation.withEvent event)) := by
      intro event _
      have hbelow : ∃ instant : Instant, instant.millis = (situation.withEvent event).now := hnow
      exact holdsInWords?_eq hbelow inner
    rw [holdsInWords?, mapM_eq_some_map hevents, holds]
    simp
  | subscription mark source status => rfl

theorem allHoldInWords?_eq {situation : Situation}
    (hnow : ∃ instant : Instant, instant.millis = situation.now) (parts : List (Criterion α)) :
    allHoldInWords? situation parts = some (allHold situation parts) := by
  cases parts with
  | nil => rfl
  | cons part rest =>
    rw [allHoldInWords?, holdsInWords?_eq hnow part, allHoldInWords?_eq hnow rest]
    rfl

theorem someHoldsInWords?_eq {situation : Situation}
    (hnow : ∃ instant : Instant, instant.millis = situation.now) (parts : List (Criterion α)) :
    someHoldsInWords? situation parts = some (someHolds situation parts) := by
  cases parts with
  | nil => rfl
  | cons part rest =>
    rw [someHoldsInWords?, holdsInWords?_eq hnow part, someHoldsInWords?_eq hnow rest]
    rfl

theorem holdsIfGivenInWords?_eq {situation : Situation}
    (hnow : ∃ instant : Instant, instant.millis = situation.now) (inner : Option (Criterion α)) :
    holdsIfGivenInWords? situation inner = some (holdsIfGiven situation inner) := by
  cases inner with
  | none => rfl
  | some inner => exact holdsInWords?_eq hnow inner

end

end

/-- No operation on 64-bit integers overflows: not the products of a move, whatever the amounts of the
duration and wherever it starts, and none in the evaluation of a criterion for a subject at an instant,
whatever event is looked at from outside. -/
theorem verdict_in_words :
    (∀ (duration : Duration) (start : Int),
      duration.applyInWords? start = some (duration.apply start)) ∧
    ∀ (criterion : Criterion α) (subject : Subject) (outside : Option Record) (now : Instant),
      holdsInWords? ⟨subject, outside, now.millis⟩ criterion =
        some (criterion.holds ⟨subject, outside, now.millis⟩) :=
  ⟨Duration.applyInWords?_eq, fun criterion _ _ now => holdsInWords?_eq ⟨now, rfl⟩ criterion⟩

end Criterion

end Audience
