import Audience.Json.Spelling
import Audience.Settings.Value

/-!
# JSON documents as settings

* **`Setting.ofJson`**: the setting of a JSON value. Integers past 63 bits become real numbers.
-/

namespace Audience.Setting

/-- The setting of a number. -/
def ofNumber (value : Json.Number) : Setting :=
  match value with
  | .integer n _ => (ofInt? n).getD (.real value.toBinary64)
  | .real _ _ => .real value.toBinary64

mutual

/-- The setting of a JSON value. -/
def ofJson : Json → Setting
  | .null => .nothing
  | .bool value => .boolean value
  | .number value => ofNumber value
  | .string value => .text value
  | .array items => .list (ofItems items)
  | .object members => .table (ofMembers members)

/-- The settings of items. -/
def ofItems : List Json → List Setting
  | [] => []
  | item :: rest => ofJson item :: ofItems rest

/-- The settings of members. -/
def ofMembers : List (String × Json) → List (String × Setting)
  | [] => []
  | (key, value) :: rest => (key, ofJson value) :: ofMembers rest

end

end Audience.Setting
