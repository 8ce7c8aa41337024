import Audience.Comparison

/-!
# Verdicts

* **`Criterion.holds`**: whether a criterion holds in a situation. A test of a source without a value
  fails; a presence test of such a source holds when absence is asked for.
* **`Criterion.isMetBy`**: whether a subject meets a criterion at an instant.
-/

namespace Audience.Criterion

variable {α : Type}

/-- Whether the value of a source passes a test. -/
def testHolds (situation : Situation) (source : Source) (test : Test) : Bool :=
  (situation.resolve source).value?.any fun datum => datum.passes situation.now test

/-- Whether a scope has a subscription status. -/
def subscriptionHolds (situation : Situation) (source : Source) (status : SubscriptionStatus) :
    Bool :=
  match situation.resolve source with
  | .scope record => record.subscriptionStatus == some status
  | _ => false

mutual

/-- Whether a criterion holds. -/
def holds (situation : Situation) : Criterion α → Bool
  | matchAll _ => true
  | and _ parts => allHold situation parts
  | or _ parts => someHolds situation parts
  | not _ inner => !holds situation inner
  | test _ source question => testHolds situation source question
  | presence _ source present sinceDate elapsedTime =>
      match situation.observe source with
      | none => !present
      | some _ => present && holdsIfGiven situation sinceDate && holdsIfGiven situation elapsedTime
  | someEvent _ inner =>
      situation.subject.events.any fun event => holds (situation.withEvent event) inner
  | subscription _ source status => subscriptionHolds situation source status

/-- Whether all criteria hold. -/
def allHold (situation : Situation) : List (Criterion α) → Bool
  | [] => true
  | part :: rest => holds situation part && allHold situation rest

/-- Whether some criterion holds. -/
def someHolds (situation : Situation) : List (Criterion α) → Bool
  | [] => false
  | part :: rest => holds situation part || someHolds situation rest

/-- Whether a criterion that may be missing holds. -/
def holdsIfGiven (situation : Situation) : Option (Criterion α) → Bool
  | none => true
  | some inner => holds situation inner

end

/-- Whether a subject meets a criterion at an instant, given in epoch milliseconds. -/
def isMetBy (criterion : Criterion α) (subject : Subject) (now : Int) : Bool :=
  criterion.holds (.ofSubject subject now)

end Audience.Criterion
