import Audience.Json.Basic
import Audience.Numeric.Reading
import Audience.Text.Blank

/-!
# Setting values

The values that settings files and the environment give, and their free conversion into each other.

* **`Setting`**: nothing, texts, numbers, truth values, lists and tables.
* **`Setting.natural?`**, **`Setting.truth?`**, **`Setting.words?`**: the value as a natural number of
  64 bits, a truth value or a text.
* **`Setting.merge`**: sets a member without regard to the case of its key; a table is merged into a
  table that is there.
-/

namespace Audience

/-- A value of a setting. -/
inductive Setting
  | nothing
  | text (value : String)
  | integer (value : Int)
  | real (value : Binary64)
  | boolean (value : Bool)
  | list (items : List Setting)
  | table (members : List (String × Setting))

namespace Setting

instance : Inhabited Setting := ⟨.nothing⟩

/-- An integer, if it has at most 64 bits with its sign. -/
def ofInt? (value : Int) : Option Setting :=
  if -(2 ^ 63) ≤ value ∧ value < 2 ^ 63 then some (.integer value) else none

/-- The largest natural number of 64 bits. -/
def largestNatural : Nat := 2 ^ 64 - 1

/-- A natural number, if it has at most 64 bits. -/
def fitting? (value : Nat) : Option Nat := if value ≤ largestNatural then some value else none

/-- The natural number nearest to a number, a half going up; what is out of range gives the nearer
end, and NaN gives zero. -/
def rounded : Binary64 → Nat
  | .nan => 0
  | .infinite negative => if negative then 0 else largestNatural
  | .finite negative size =>
      if negative then 0 else min largestNatural ((2 * size.quanta + unit) / (2 * unit))

/-- The value as a natural number of 64 bits. -/
def natural? : Setting → Option Nat
  | integer value => if 0 ≤ value then fitting? value.toNat else none
  | real value => some (rounded value)
  | boolean value => some (if value then 1 else 0)
  | text value =>
      let word := Text.lowerAscii value
      if word = "true" || word = "on" || word = "yes" then some 1
      else if word = "false" || word = "off" || word = "no" then some 0
      else (Text.natural? value.toList).bind fitting?
  | _ => none

/-- The value as a truth value. -/
def truth? : Setting → Option Bool
  | boolean value => some value
  | integer value => some (value != 0)
  | real value => some (value.order? .zero != some .eq)
  | text value =>
      let word := Text.lowerAscii value
      if word = "1" || word = "true" || word = "on" || word = "yes" then some true
      else if word = "0" || word = "false" || word = "off" || word = "no" then some false
      else none
  | _ => none

/-- The value as a text. -/
def words? : Setting → Option String
  | text value => some value
  | boolean value => some (if value then "true" else "false")
  | integer value => some (toString value)
  | real value => some value.plain
  | _ => none

/-- The members of a table; of anything else, none. -/
def members : Setting → List (String × Setting)
  | table members => members
  | _ => []

/-- The items of a list; of anything else, none. -/
def items : Setting → List Setting
  | list items => items
  | _ => []

/-- The member of a table under a key. -/
def member? (setting : Setting) (key : String) : Option Setting := Json.find? setting.members key

/-- Sets a member, whatever it was. -/
def replace (setting : Setting) (key : String) (value : Setting) : Setting :=
  .table (Json.put setting.members key value)

mutual

/-- Sets the member under a key, in small letters, of what must become a table. -/
def merge (target : Setting) (key : String) : Setting → Setting
  | table incoming =>
      let name := Text.lowerAscii key
      target.replace name (mergeAll ((target.member? name).getD (.table [])) incoming)
  | nothing => target.replace (Text.lowerAscii key) .nothing
  | text value => target.replace (Text.lowerAscii key) (.text value)
  | integer value => target.replace (Text.lowerAscii key) (.integer value)
  | real value => target.replace (Text.lowerAscii key) (.real value)
  | boolean value => target.replace (Text.lowerAscii key) (.boolean value)
  | list items => target.replace (Text.lowerAscii key) (.list items)

/-- Sets several members. -/
def mergeAll (target : Setting) : List (String × Setting) → Setting
  | [] => target
  | (key, value) :: rest => mergeAll (merge target key value) rest

end

end Setting

end Audience
