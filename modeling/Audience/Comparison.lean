import Audience.Criterion.Basic
import Audience.Resolution

/-!
# Comparison of values with literals

* **`Datum.order?`**: how a value is ordered to a literal, if the two can be compared. Numbers compare
  with numbers and instants, texts with texts and, when they are RFC 3339, instants; a length of time
  compares with a duration by the calendar, through the instant the duration leads to.
* **`Datum.someItem`**: whether an item of an array, or the value itself, passes a test.
* **`Datum.passes`**: whether a value passes a test of a criterion.
-/

namespace Audience.Datum

/-- The order of two truth values, false before true. -/
def orderOfBools : Bool → Bool → Ordering
  | false, true => .lt
  | true, false => .gt
  | _, _ => .eq

/-- How a JSON number is ordered to a literal. -/
def orderOfNumber? (now : Int) (actual : Binary64) (expected : Literal) : Option Ordering :=
  match expected with
  | .number value => actual.order? value
  | .date _ | .relativeDate _ => do actual.order? (.ofInt (← expected.instant? now))
  | _ => none

/-- How a JSON string is ordered to a literal. -/
def orderOfText? (now : Int) (actual : String) (expected : Literal) : Option Ordering :=
  match expected with
  | .text value => some (compare actual value)
  | .date _ | .relativeDate _ => do
      let instant ← Timestamp.strict? actual.toList
      return compare instant.millis (← expected.instant? now)
  | _ => none

/-- How a length of time is ordered to a literal. -/
def orderOfElapsed? (since upTo : Int) (expected : Literal) : Option Ordering :=
  match expected with
  | .duration value => some (compare upTo (value.apply since))
  | .number millis => (Binary64.ofInt (upTo - since)).order? millis
  | _ => none

/-- How a value is ordered to a literal at an instant. -/
def order? (now : Int) (actual : Datum) (expected : Literal) : Option Ordering :=
  match actual with
  | json (.number value) => orderOfNumber? now value.toBinary64 expected
  | json (.string value) => orderOfText? now value expected
  | json (.bool value) =>
      match expected with
      | .boolean wanted => some (orderOfBools value wanted)
      | _ => none
  | json _ => none
  | date instant => do return compare instant (← expected.instant? now)
  | elapsed since upTo => orderOfElapsed? since upTo expected
  | location _ => none

/-- Whether a value equals a literal. -/
def equals (now : Int) (actual : Datum) (expected : Literal) : Bool :=
  actual.order? now expected == some .eq

/-- Whether an item of an array, or the value itself, passes a test. -/
def someItem (actual : Datum) (test : Datum → Bool) : Bool :=
  match actual with
  | json (.array items) => items.any fun item => test (json item)
  | _ => test actual

/-- Whether some item equals a literal. -/
def hasEqual (now : Int) (actual : Datum) (expected : Literal) : Bool :=
  actual.someItem fun item => item.equals now expected

/-- Whether every literal has an item that equals it. -/
def containsAll (now : Int) (actual : Datum) (expected : List Literal) : Bool :=
  expected.all fun value => actual.hasEqual now value

/-- Whether some item stands in an order to a literal. -/
def isOrdered (now : Int) (actual : Datum) (operator : Operator) (expected : Literal) : Bool :=
  actual.someItem fun item => (item.order? now expected).any operator.accepts

/-- Whether some item is a string that starts with a text. -/
def startsWith (actual : Datum) (front : String) : Bool :=
  actual.someItem fun item =>
    match item with
    | json (.string value) => front.toList.isPrefixOf value.toList
    | _ => false

/-- The location that a value is, or that an object with a latitude and a longitude gives. -/
def location? : Datum → Option Geo.Location
  | location place => some place
  | json (.object members) => do
      let lat ← (Json.member? (.object members) "lat").bind Json.number?
      let lon ← (Json.member? (.object members) "lon").bind Json.number?
      (Geo.Location.check lat lon).toOption
  | _ => none

/-- Whether a value passes a test. -/
def passes (now : Int) (actual : Datum) : Test → Bool
  | .equal value => actual.hasEqual now value
  | .any values => values.any fun value => actual.hasEqual now value
  | .all values => actual.containsAll now values
  | .order operator value => actual.isOrdered now operator value
  | .startsWith front => actual.startsWith front
  | .inside area => actual.location?.any area.contains

end Audience.Datum
