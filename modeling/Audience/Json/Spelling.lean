import Audience.Json.Basic
import Audience.Json.Token

/-!
# JSON texts

A text is first read for its structure alone: members in written order, repeats included, and in the
place of what denotes no value a mark that it is unreadable. A reader that passes over parts of a
document never learns what they denote.

* **`Json.Spelling`**: the structure of a text.
* **`Json.Spelling.ofText?`**: the structure of a text that keeps to the grammar. A container that is
  nested deeper than a limit is unreadable; **`Json.nestingLimit`** is the usual one.
* **`Json.Spelling.value?`**: the value, if nothing in it is unreadable; of members with equal keys
  the last.
* **`Json.ofText?`**: the value of a text.
* **`Json.spelling`**: the structure of a value.
-/

namespace Audience.Json

/-- How many containers may stand within each other. -/
def nestingLimit : Nat := 127

/-- The structure of a JSON text. -/
inductive Spelling
  | null
  | bool (value : Bool)
  | number (value : Number)
  | string (value : String)
  | unreadable
  | array (items : List Spelling)
  | object (members : List (Option String × Spelling))

namespace Spelling

instance : Inhabited Spelling := ⟨.null⟩

/-- A container whose end has not come, what it holds last first. -/
inductive Frame
  | items (before : List Spelling)
  | members (before : List (Option String × Spelling))
  | memberOf (before : List (Option String × Spelling)) (key : Option String)

/-- What must come next. -/
inductive Expecting
  | value
  | firstItem
  | firstMember
  | member
  | colon
  | more
  deriving DecidableEq

/-- The state between two tokens: a value under construction, or the whole one. -/
inductive Builder
  | inside (frames : List Frame) (expecting : Expecting)
  | complete (whole : Spelling)

namespace Builder

/-- The state after a whole value within `frames`. -/
def placed : List Frame → Spelling → Option Builder
  | [], value => some (.complete value)
  | .items before :: outer, value => some (.inside (.items (value :: before) :: outer) .more)
  | .memberOf before key :: outer, value =>
      some (.inside (.members ((key, value) :: before) :: outer) .more)
  | .members _ :: _, _ => none

/-- A container that stands within `outer`, if at most `limit` containers stand within each other. -/
def contained (limit : Nat) (outer : List Frame) (container : Spelling) : Spelling :=
  if outer.length < limit then container else .unreadable

/-- The state after the end of the innermost container. -/
def closed (limit : Nat) : List Frame → Option Builder
  | .items before :: outer => placed outer (contained limit outer (.array before.reverse))
  | .members before :: outer => placed outer (contained limit outer (.object before.reverse))
  | _ => none

/-- The state after the first token of a value. -/
def begun (frames : List Frame) : Token → Option Builder
  | .null => placed frames .null
  | .bool value => placed frames (.bool value)
  | .number value => placed frames ((value.map Spelling.number).getD .unreadable)
  | .string value => placed frames ((value.map Spelling.string).getD .unreadable)
  | .arrayOpen => some (.inside (.items [] :: frames) .firstItem)
  | .objectOpen => some (.inside (.members [] :: frames) .firstMember)
  | _ => none

/-- The state after the key of a member. -/
def keyed : List Frame → Option String → Option Builder
  | .members before :: outer, key => some (.inside (.memberOf before key :: outer) .colon)
  | _, _ => none

/-- The state after the comma behind an item or member. -/
def continued : List Frame → Option Builder
  | .items before :: outer => some (.inside (.items before :: outer) .value)
  | .members before :: outer => some (.inside (.members before :: outer) .member)
  | _ => none

/-- Whether the innermost container is an array. -/
def inArray : List Frame → Bool
  | .items _ :: _ => true
  | _ => false

/-- The step on one token. -/
def step? (limit : Nat) : Builder → Token → Option Builder
  | .complete _, _ => none
  | .inside frames .value, token => begun frames token
  | .inside frames .firstItem, .arrayClose => closed limit frames
  | .inside frames .firstItem, token => begun frames token
  | .inside frames .firstMember, .objectClose => closed limit frames
  | .inside frames .firstMember, .string key => keyed frames key
  | .inside frames .member, .string key => keyed frames key
  | .inside frames .colon, .colon => some (.inside frames .value)
  | .inside frames .more, .comma => continued frames
  | .inside frames .more, .arrayClose => if inArray frames then closed limit frames else none
  | .inside frames .more, .objectClose => if inArray frames then none else closed limit frames
  | .inside _ _, _ => none

end Builder

/-- The structure of a text whose containers may be nested up to a limit. -/
def ofText? (limit : Nat) (text : String) : Option Spelling := do
  let tokens ← tokens? text.toList
  match ← tokens.foldlM (Builder.step? limit) (.inside [] .value) with
  | .complete whole => some whole
  | .inside _ _ => none

mutual

/-- The value of a structure. -/
def value? : Spelling → Option Json
  | null => some .null
  | bool value => some (.bool value)
  | number value => some (.number value)
  | string value => some (.string value)
  | unreadable => none
  | array items => (itemValues? items).map .array
  | object members => (memberValues? members).map ofMembers

/-- The values of a row of structures. -/
def itemValues? : List Spelling → Option (List Json)
  | [] => some []
  | item :: rest => do return (← value? item) :: (← itemValues? rest)

/-- The values of members, in written order. -/
def memberValues? : List (Option String × Spelling) → Option (List (String × Json))
  | [] => some []
  | (key, value) :: rest => do return (← key, ← value? value) :: (← memberValues? rest)

end

end Spelling

/-- The value of a text. -/
def ofText? (text : String) : Option Json := do (← Spelling.ofText? nestingLimit text).value?

mutual

/-- The structure of a value. -/
def spelling : Json → Spelling
  | .null => .null
  | .bool value => .bool value
  | .number value => .number value
  | .string value => .string value
  | .array items => .array (spellings items)
  | .object members => .object (memberSpellings members)

/-- The structures of a row of values. -/
def spellings : List Json → List Spelling
  | [] => []
  | item :: rest => spelling item :: spellings rest

/-- The structures of members. -/
def memberSpellings : List (String × Json) → List (Option String × Spelling)
  | [] => []
  | (key, value) :: rest => (some key, spelling value) :: memberSpellings rest

end

end Audience.Json
