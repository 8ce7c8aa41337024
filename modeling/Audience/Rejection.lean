import Audience.Duration.Basic
import Audience.Geo.Location
import Audience.Text.Quoted

/-!
# Rejections

Why a document is refused, and where.

* **`Step`** and **`pathText`**: a step into a member or item, and the text of the steps from the
  root. Keys of letters, digits and underscores stand after a point, others quoted in brackets.
* **`Rejection.Cause`** and **`Rejection.Cause.message`**: the causes and their wording.
* **`Rejection`**: a cause and the steps to the place at fault.
-/

namespace Audience

/-- A step from a value into one of its members or items. -/
inductive Step
  | key (name : String)
  | index (position : Nat)
  deriving DecidableEq

namespace Step

/-- Whether a key stands in a path without brackets. -/
def isPlainKey (name : List Char) : Bool :=
  !name.isEmpty && name.all fun c => c.isAlphanum || c = '_'

/-- The text of a step. -/
def text : Step → List Char
  | key name =>
      if isPlainKey name.toList then '.' :: name.toList else '[' :: Text.quoted name ++ [']']
  | index position => '[' :: Nat.toDigits 10 position ++ [']']

end Step

/-- The text of the steps from the root of a document. -/
def pathText (steps : List Step) : String := String.ofList ('$' :: steps.flatMap Step.text)

namespace Rejection

/-- Why a document is refused. -/
inductive Cause
  | nestedTooDeep (limit : Nat)
  | tooManyNodes (nodes limit : Nat)
  | notAnObject
  | strayPresenceKey (key : String)
  | criteriaExpected (key : String)
  | valuesExpected (key : String)
  | stringExpected (key : String)
  | presenceExpected
  | presentExpected
  | presentMissing
  | geoExpected
  | unknownKey (key : String)
  | unknownPresenceKey (key : String)
  | unknownGeoKey (key : String)
  | unknownStatus (name : String)
  | badFieldPath (path : String)
  | noFieldsBelow (name : String)
  | noActivityBelow
  | rootNeeded (key path : String)
  | ownerNeeded (key path : String)
  | valueNeeded (key path : String)
  | nullLiteral
  | arrayLiteral
  | oneKeyExpected
  | unknownType (name : String)
  | dateExpected
  | badDate (text : String)
  | dateOutOfRange (millis : Binary64)
  | numberMissing (key : String)
  | centerMissing
  | areaExpected
  | duration (fault : Duration.Fault)
  | geo (fault : Geo.Fault)
  deriving DecidableEq

/-- A text between quotes, its characters as they are. -/
def inQuotes (text : String) : String := "\"" ++ text ++ "\""

/-- The wording of a cause. -/
def Cause.message : Cause → String
  | nestedTooDeep limit => "criteria nested deeper than " ++ toString limit ++ " levels"
  | tooManyNodes nodes limit =>
      "criteria have " ++ toString nodes ++ " nodes, more than the limit of " ++ toString limit
  | notAnObject => "a criterion must be a JSON object"
  | strayPresenceKey key => inQuotes key ++ " is only allowed next to a boolean \"presence\""
  | criteriaExpected key => inQuotes key ++ " expects an array of criteria"
  | valuesExpected key => inQuotes key ++ " expects an array of values"
  | stringExpected key => inQuotes key ++ " expects a string"
  | presenceExpected => "\"presence\" expects a boolean or an object"
  | presentExpected => "\"present\" expects a boolean"
  | presentMissing => "\"presence\" requires \"present\""
  | geoExpected => "\"geo\" expects an object with \"location\" and/or \"date\""
  | unknownKey key => "unknown criterion key " ++ inQuotes key
  | unknownPresenceKey key => "unknown presence key " ++ inQuotes key
  | unknownGeoKey key => "unknown geo key " ++ inQuotes key
  | unknownStatus name => "unknown subscription status " ++ inQuotes name
  | badFieldPath path => "invalid field path " ++ inQuotes path
  | noFieldsBelow name => "custom fields cannot be read from " ++ inQuotes name
  | noActivityBelow => "\"lastActivityDate\" requires an installation or user scope"
  | rootNeeded key path =>
      inQuotes key ++ " is only allowed at the root of a scope, not under " ++ inQuotes path
  | ownerNeeded key path =>
      inQuotes key ++ " requires an installation or user scope, not " ++ inQuotes path
  | valueNeeded key path =>
      inQuotes key ++ " needs a value to compare, but applies to the " ++ inQuotes path ++ " scope"
  | nullLiteral => "null never matches a value; test absence with \"presence\": false"
  | arrayLiteral => "expected a single value, got an array"
  | oneKeyExpected => "a typed value must have exactly one key"
  | unknownType name => "unknown value type " ++ inQuotes name
  | dateExpected => "date expects an RFC 3339 string or epoch milliseconds"
  | badDate text => "invalid date " ++ inQuotes text
  | dateOutOfRange millis => "epoch milliseconds " ++ millis.plain ++ " out of range"
  | numberMissing key => "missing numeric " ++ inQuotes key
  | centerMissing => "geocircle requires a \"center\""
  | areaExpected => "expected a geocircle or geobox value"
  | duration fault => fault.message
  | geo fault => fault.message

end Rejection

/-- Why a document is refused, and the steps from its root to the place at fault. -/
structure Rejection where
  cause : Rejection.Cause
  steps : List Step
  deriving DecidableEq

namespace Rejection

/-- The wording of the cause. -/
def message (rejection : Rejection) : String := rejection.cause.message

/-- The path to the place at fault. -/
def path (rejection : Rejection) : String := pathText rejection.steps

/-- The whole wording, with the path. -/
def text (rejection : Rejection) : String :=
  "Bad input: " ++ rejection.message ++ " (at " ++ rejection.path ++ ")"

end Rejection

end Audience
