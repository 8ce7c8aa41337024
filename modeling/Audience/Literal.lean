import Audience.Calendar.Timestamp
import Audience.Duration.Shift
import Audience.Duration.Text
import Audience.Geo.Area
import Audience.Place

/-!
# Literals

The values that criteria compare with.

* **`Literal`** and **`Literal.instant?`**: the literals, and the instant one denotes.
* **`Literal.ofJson`**: reads a literal at a place. An object with one key is a typed value; a bare
  text or number under a source of instants or lengths of time is read as one of these.
* **`Literal.areaOfJson`**: reads a literal that must be an area.
-/

namespace Audience

/-- A value that criteria compare with. -/
inductive Literal
  | boolean (value : Bool)
  | number (value : Binary64)
  | text (value : String)
  | date (value : Instant)
  | duration (value : Duration)
  /-- The instant of evaluation moved by a duration. -/
  | relativeDate (value : Duration)
  | area (value : Geo.Area)
  deriving DecidableEq

namespace Literal

/-- The instant a literal denotes at the instant `now`, in epoch milliseconds. -/
def instant? (now : Int) : Literal → Option Int
  | date value => some value.millis
  | relativeDate value => some (value.apply now)
  | number value => some value.toWord
  | _ => none

/-- Reads the date of a text: RFC 3339, or a day alone. -/
def dateOfText (place : Place) (written : String) : Except Rejection Instant :=
  match Timestamp.strict? written.toList <|> Timestamp.day? written.toList with
  | some value => .ok value
  | none => place.reject (.badDate written)

/-- Reads the date of a number of epoch milliseconds. -/
def dateOfMillis (place : Place) (millis : Binary64) : Except Rejection Instant :=
  match Instant.ofMillis? millis.toWord with
  | some value => .ok value
  | none => place.reject (.dateOutOfRange millis)

/-- Reads a duration. -/
def durationOf (place : Place) (json : Json) : Except Rejection Duration :=
  match Duration.ofJson json with
  | .ok value => .ok value
  | .error fault => place.reject (.duration fault)

/-- Reads a bare number. -/
def ofNumber (place : Place) (value : Binary64) : Except Rejection Literal :=
  if place.source.isDate then (dateOfMillis place value).map date
  else if place.source.isDuration then .ok (duration (.ofMillis value))
  else .ok (number value)

/-- Reads a bare text. -/
def ofText (place : Place) (value : String) : Except Rejection Literal :=
  if place.source.isDate then
    match Duration.ofText? value with
    | some shift => .ok (relativeDate shift)
    | none => (dateOfText place value).map date
  else if place.source.isDuration then (durationOf place (.string value)).map duration
  else .ok (text value)

/-- Reads the number under a key. -/
def numberUnder (place : Place) (body : Json) (key : String) : Except Rejection Binary64 :=
  match (body.member? key).bind Json.number? with
  | some value => .ok value
  | none => place.reject (.numberMissing key)

/-- A result of the geometry, its faults placed. -/
def located {α : Type} (place : Place) : Except Geo.Fault α → Except Rejection α
  | .ok value => .ok value
  | .error fault => place.reject (.geo fault)

/-- Reads a location. -/
def locationOf (place : Place) (body : Json) : Except Rejection Geo.Location := do
  let lat ← numberUnder place body "lat"
  let lon ← numberUnder place body "lon"
  located place (Geo.Location.check lat lon)

/-- Reads a circle. -/
def circleOf (place : Place) (body : Json) : Except Rejection Geo.Circle := do
  match body.member? "center" with
  | none => place.reject .centerMissing
  | some center =>
      let center ← locationOf (← place.key "center") center
      let radius ← numberUnder place body "radius"
      located place (Geo.Circle.check center radius)

/-- Reads a box. -/
def boxOf (place : Place) (body : Json) : Except Rejection Geo.Box := do
  let top ← numberUnder place body "top"
  let right ← numberUnder place body "right"
  let bottom ← numberUnder place body "bottom"
  let left ← numberUnder place body "left"
  located place (Geo.Box.check top right bottom left)

/-- Reads what stands under the type name of a typed value. -/
def ofTyped (place : Place) (type : String) (body : Json) : Except Rejection Literal :=
  if type = "date" then
    match body with
    | .string value => (dateOfText place value).map date
    | .number value => (dateOfMillis place value.toBinary64).map date
    | _ => place.reject .dateExpected
  else if type = "duration" then
    match body with
    | .number value => .ok (duration (.ofMillis value.toBinary64))
    | _ => (durationOf place body).map duration
  else if type = "relativeDate" then (durationOf place body).map relativeDate
  else if type = "geocircle" then (circleOf place body).map fun circle => area (.circle circle)
  else if type = "geobox" then (boxOf place body).map fun box => area (.box box)
  else place.reject (.unknownType type)

/-- Reads a literal. -/
def ofJson (place : Place) : Json → Except Rejection Literal
  | .null => place.reject .nullLiteral
  | .bool value => .ok (boolean value)
  | .number value => ofNumber place value.toBinary64
  | .string value => ofText place value
  | .object [(type, body)] => do ofTyped (← place.key type) type body
  | .object _ => place.reject .oneKeyExpected
  | .array _ => place.reject .arrayLiteral

/-- Reads a literal that must be an area. -/
def areaOfJson (place : Place) (json : Json) : Except Rejection Geo.Area := do
  match ← ofJson place json with
  | area value => .ok value
  | _ => place.reject .areaExpected

end Literal

end Audience
