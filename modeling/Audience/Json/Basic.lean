import Audience.Json.Number

/-!
# JSON values

* **`Json`**: the values. The members of an object are listed in the order of their keys, each key
  once; `Json.put` and `Json.ofMembers` keep to that, the last of equal keys winning.
* **`Json.find?`**, **`Json.member?`**: a member by its key.
* **`Json.number?`**, **`Json.string?`**: what a scalar holds.
-/

namespace Audience

/-- A JSON value. -/
inductive Json
  | null
  | bool (value : Bool)
  | number (value : Json.Number)
  | string (value : String)
  | array (items : List Json)
  | object (members : List (String × Json))

namespace Json

instance : Inhabited Json := ⟨.null⟩

/-- The value under a key. -/
def find? {α : Type} (members : List (String × α)) (key : String) : Option α :=
  match members with
  | [] => none
  | (name, value) :: rest => if name = key then some value else find? rest key

/-- Puts a member in its place in the order of keys, in the place of one with the same key. -/
def put {α : Type} (members : List (String × α)) (key : String) (value : α) : List (String × α) :=
  match members with
  | [] => [(key, value)]
  | (name, old) :: rest =>
      if name < key then (name, old) :: put rest key value
      else if name = key then (key, value) :: rest
      else (key, value) :: (name, old) :: rest

/-- Members in the order of their keys, the last of equal keys. -/
def ordered {α : Type} (members : List (String × α)) : List (String × α) :=
  members.foldl (fun found entry => put found entry.1 entry.2) []

/-- The object with the given members, in any order. -/
def ofMembers (members : List (String × Json)) : Json := .object (ordered members)

/-- The member of an object under a key. -/
def member? : Json → String → Option Json
  | .object members, key => find? members key
  | _, _ => none

/-- The binary64 number nearest to a number. -/
def number? : Json → Option Binary64
  | .number value => some value.toBinary64
  | _ => none

/-- The text of a string. -/
def string? : Json → Option String
  | .string value => some value
  | _ => none

/-- Whether the value is `null`. -/
def isNull : Json → Bool
  | .null => true
  | _ => false

/-- An integer; `null` when it does not fit 64 bits. -/
def ofInt (value : Int) : Json := ((Number.ofInt? value).map Json.number).getD .null

/-- A binary64 number; `null` when it is not finite. -/
def ofBinary64 (value : Binary64) : Json := ((Number.ofBinary64? value).map Json.number).getD .null

/-- A value that may be missing, as `null`. -/
def ofOption : Option Json → Json
  | some value => value
  | none => .null

end Json

end Audience
