import Audience.Json.Spelling

/-!
# Reading records from JSON

A record is read from an object by the names of its fields, or from an array by their order. In an
object, members with other names are passed over, whatever they hold, and no field may be repeated;
an array may not be longer than the record.

* **`Json.Entry`**: what a document gives for one field.
* **`Json.Spelling.entries?`**: the entries of a record, in the order of its fields.
* **`Json.Entry.required?`**, **`Json.Entry.optional?`**, **`Json.Entry.orElse?`**: fields that must
  be given, may be missing, or have a value of their own when missing. An array that ends early
  leaves out only fields of the last kind.
-/

namespace Audience.Json

/-- What a document gives for a field: a value, nothing in an object, nothing in an array. -/
inductive Entry
  | given (value : Spelling)
  | unnamed
  | cutOff

namespace Spelling

/-- The entry of a name among members; a name may stand there once. -/
def entryOf? (members : List (Option String × Spelling)) (name : String) : Option Entry :=
  match members.filter fun member => member.1 == some name with
  | [] => some .unnamed
  | [member] => some (.given member.2)
  | _ => none

/-- The entries of the first `fields` places of an array. -/
def entriesOfItems : Nat → List Spelling → List Entry
  | 0, _ => []
  | fields + 1, [] => .cutOff :: entriesOfItems fields []
  | fields + 1, item :: rest => .given item :: entriesOfItems fields rest

/-- The entries of a record with the given field names. -/
def entries? (names : List String) : Spelling → Option (List Entry)
  | object members =>
      if members.all fun member => member.1.isSome then names.mapM (entryOf? members) else none
  | array items =>
      if items.length ≤ names.length then some (entriesOfItems names.length items) else none
  | _ => none

/-- The binary64 number nearest to a number. -/
def number? : Spelling → Option Binary64
  | number value => some value.toBinary64
  | _ => none

/-- The text of a string. -/
def string? : Spelling → Option String
  | string value => some value
  | _ => none

/-- The readings of the items of an array. -/
def items? {α : Type} (read? : Spelling → Option α) : Spelling → Option (List α)
  | array items => items.mapM read?
  | _ => none

/-- The readings of the members of an object, the last of equal keys, in the order of the keys. -/
def members? {α : Type} (read? : Spelling → Option α) : Spelling → Option (List (String × α))
  | object members => do
      return ordered (← members.mapM fun member => do return (← member.1, ← read? member.2))
  | _ => none

/-- The only member of an object. -/
def onlyMember? : Spelling → Option (String × Spelling)
  | object [(some key, value)] => some (key, value)
  | _ => none

end Spelling

namespace Entry

/-- A field that must be given. -/
def required? {α : Type} (read? : Spelling → Option α) : Entry → Option α
  | given value => read? value
  | _ => none

/-- A field that an object may leave out, or hold `null` for. -/
def optional? {α : Type} (read? : Spelling → Option α) : Entry → Option (Option α)
  | given .null => some none
  | given value => (read? value).map some
  | unnamed => some none
  | cutOff => none

/-- A field with a value of its own when it is missing. -/
def orElse? {α : Type} (missing : α) (read? : Spelling → Option α) : Entry → Option α
  | given value => read? value
  | _ => some missing

end Entry

end Audience.Json
