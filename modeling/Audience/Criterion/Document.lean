import Audience.Criterion.Keyword
import Audience.Text.Segments

/-!
# Criteria as JSON documents

A criterion is an object; each member gives a criterion and all of them must hold. The keys are those
of `Keyword`, and `source`, `sinceDateComparison` and `elapsedTimeComparison` beside a boolean
`presence`.

The rules of one level are written against a reader for the levels below. Every step down uses up one
level of the depth limit, so that reading ends whatever the document.

* **`Criterion.level`**: reads the criterion at a place, given the reader for what is below it.
* **`Criterion.read`**: reads the criterion at a place.
* **`Criterion.ofJson`**: reads a whole document and counts its nodes.
* **`Criterion.ofText`**: reads the document of a JSON text.
-/

namespace Audience

/-- A criterion whose nodes are marked with the places they were read at. -/
abbrev PlacedCriterion := Criterion Place

namespace Criterion

/-- A way to read the criterion that a value at a place spells. -/
abbrev Reader := Json → Place → Except Rejection PlacedCriterion

/-! ### Conditions on the source in force -/

/-- Goes on at a member that needs a scope. -/
def needRoot (place child : Place) (key : String) : Except Rejection Unit :=
  if place.source.isRoot then .ok () else child.reject (.rootNeeded key place.source.path)

/-- Goes on at a member that needs an installation or user. -/
def needOwner (place child : Place) (key : String) : Except Rejection Unit :=
  if place.source.isOwner then .ok () else child.reject (.ownerNeeded key place.source.path)

/-- Goes on at a member that needs a value. -/
def needValue (place child : Place) (key : String) : Except Rejection Unit :=
  if place.source.isRoot then child.reject (.valueNeeded key place.source.path) else .ok ()

/-! ### Sources -/

/-- The segments of a dotted path, none of them empty. -/
def fieldPath (place : Place) (path : String) : Except Rejection (List String) :=
  let segments := Text.segments '.' path
  if segments.any String.isEmpty then place.reject (.badFieldPath path) else .ok segments

/-- A custom field below a source. -/
def fieldBelow (place : Place) (parent : Source) (segments : List String) :
    Except Rejection Source :=
  if parent.hasFields then .ok (.field parent segments)
  else place.reject (.noFieldsBelow parent.name)

/-- The source that segments lead to from a base: the base itself, its last activity or a field. -/
def sourceBelow (place : Place) (base : Source) (segments : List String) :
    Except Rejection Source :=
  match segments with
  | [] => .ok base
  | _ =>
      if segments = ["lastActivityDate"] then
        if base.isOwner then .ok (.lastActivity base) else place.reject .noActivityBelow
      else fieldBelow place base segments

/-- The source of a dotted path, from the installation or user it starts with, or else from the
source in force. -/
def sourceOfPath (place : Place) (path : String) : Except Rejection Source := do
  match ← fieldPath place path with
  | "installation" :: segments => sourceBelow place .installation segments
  | "user" :: segments => sourceBelow place .user segments
  | segments => sourceBelow place place.source segments

/-! ### The rules of one level -/

/-- Reads the items of an array, each at its index. -/
def items {α : Type} (read : Json → Place → Except Rejection α) (place : Place) (start : Nat) :
    List Json → Except Rejection (List α)
  | [] => .ok []
  | item :: rest => do
      let first ← read item (← place.index start)
      return first :: (← items read place (start + 1) rest)

/-- Reads a list of criteria. -/
def criteriaList (below : Reader) (child : Place) (key : String) (value : Json) :
    Except Rejection (List PlacedCriterion) :=
  match value with
  | .array values => items below child 0 values
  | _ => child.reject (.criteriaExpected key)

/-- Reads a list of literals. -/
def literalList (child : Place) (key : String) (value : Json) : Except Rejection (List Literal) :=
  match value with
  | .array values => items (fun json place => Literal.ofJson place json) child 0 values
  | _ => child.reject (.valuesExpected key)

/-- Reads a string. -/
def stringOf (child : Place) (key : String) (value : Json) : Except Rejection String :=
  match value with
  | .string text => .ok text
  | _ => child.reject (.stringExpected key)

/-- The criterion of several parts that must all hold; a single part stands for itself. -/
def allOf {α : Type} (mark : α) : List (Criterion α) → Criterion α
  | [part] => part
  | parts => and mark parts

/-- The source of a key below `geo`. -/
def geoSource (place : Place) (scope : Source) (key : String) : Except Rejection Source :=
  if key = "location" then .ok (.location scope)
  else if key = "date" then .ok (.locationDate scope)
  else place.reject (.unknownGeoKey key)

/-- Reads the members below `geo`. -/
def geoMembers (below : Reader) (child : Place) :
    List (String × Json) → Except Rejection (List PlacedCriterion)
  | [] => .ok []
  | (key, value) :: rest => do
      let sub ← child.key key
      let first ← below value (sub.withSource (← geoSource sub child.source key))
      return first :: (← geoMembers below child rest)

/-- Reads what stands under `geo`. -/
def geoOf (below : Reader) (child : Place) (value : Json) : Except Rejection PlacedCriterion :=
  match value with
  | .object (first :: rest) => do return allOf child (← geoMembers below child (first :: rest))
  | _ => child.reject .geoExpected

/-- Reads a criterion on another source under a key, if there is one. -/
def under (below : Reader) (place : Place) (key : String) (source : Source) (value : Option Json) :
    Except Rejection (Option PlacedCriterion) :=
  match value with
  | none => .ok none
  | some json => do return some (← below json ((← place.key key).withSource source))

/-- The source that a `presence` with members beside it is about. -/
def besideSource (place : Place) (members : List (String × Json)) : Except Rejection Source :=
  match Json.find? members "source" with
  | none => .ok place.source
  | some value => do
      let sub ← place.key "source"
      sourceOfPath sub (← stringOf sub "source" value)

/-- Reads a boolean `presence` and the members beside it. -/
def presenceBeside (below : Reader) (place child : Place) (present : Bool)
    (members : List (String × Json)) : Except Rejection PlacedCriterion := do
  let source ← besideSource place members
  let since ← under below place "sinceDateComparison" (.sinceDate source)
    (Json.find? members "sinceDateComparison")
  let elapsed ← under below place "elapsedTimeComparison" (.elapsedTime source)
    (Json.find? members "elapsedTimeComparison")
  return presence child source present since elapsed

/-- What the members below `presence` have given so far. -/
structure PresenceParts where
  present : Option Bool
  sinceDate : Option PlacedCriterion
  elapsedTime : Option PlacedCriterion

/-- Reads a member below `presence`. -/
def presenceMember (below : Reader) (child : Place) (parts : PresenceParts) (key : String)
    (value : Json) : Except Rejection PresenceParts := do
  let sub ← child.key key
  if key = "present" then
    match value with
    | .bool present => return { parts with present := some present }
    | _ => sub.reject .presentExpected
  else if key = "sinceDate" then
    return { parts with
      sinceDate := some (← below value (sub.withSource (.sinceDate child.source))) }
  else if key = "elapsedTime" then
    return { parts with
      elapsedTime := some (← below value (sub.withSource (.elapsedTime child.source))) }
  else sub.reject (.unknownPresenceKey key)

/-- Reads the members below `presence`. -/
def presenceWithin (below : Reader) (child : Place) (members : List (String × Json)) :
    Except Rejection PlacedCriterion := do
  let parts ← members.foldlM
    (fun parts member => presenceMember below child parts member.1 member.2) ⟨none, none, none⟩
  match parts.present with
  | some present => return presence child child.source present parts.sinceDate parts.elapsedTime
  | none => child.reject .presentMissing

/-- Reads the status under `subscriptionStatus`. -/
def statusOf (child : Place) (key : String) (value : Json) :
    Except Rejection SubscriptionStatus := do
  let name ← stringOf child key value
  match SubscriptionStatus.ofName? name with
  | some status => return status
  | none => child.reject (.unknownStatus name)

/-- Reads what stands under a keyword; `members` are the members of the object at `place`, and `child`
is the place of the value. -/
def keyworded (below : Reader) (members : List (String × Json)) (place child : Place) (key : String)
    (keyword : Keyword) (value : Json) : Except Rejection PlacedCriterion :=
  match keyword with
  | .field path => do
      let segments ← fieldPath child path
      below value (child.withSource (← fieldBelow child place.source segments))
  | .order operator => do
      needValue place child key
      return test child place.source (.order operator (← Literal.ofJson child value))
  | .equal => do
      needValue place child key
      return test child place.source (.equal (← Literal.ofJson child value))
  | .any => do
      needValue place child key
      return test child place.source (.any (← literalList child key value))
  | .all => do
      needValue place child key
      return test child place.source (.all (← literalList child key value))
  | .startsWith => do
      needValue place child key
      return test child place.source (.startsWith (← stringOf child key value))
  | .inside => do
      needValue place child key
      return test child place.source (.inside (← Literal.areaOfJson child value))
  | .and => do return and child (← criteriaList below child key value)
  | .or => do return or child (← criteriaList below child key value)
  | .not => do return not child (← below value child)
  | .installation => do
      needRoot place child key
      below value (child.withSource .installation)
  | .user => do
      needRoot place child key
      below value (child.withSource .user)
  | .event => do
      needRoot place child key
      return someEvent child (← below value (child.withSource .event))
  | .lastActivity => do
      needOwner place child key
      below value (child.withSource (.lastActivity place.source))
  | .geo => do
      needOwner place child key
      geoOf below child value
  | .subscription => do
      needOwner place child key
      return subscription child place.source (← statusOf child key value)
  | .presence =>
      match value with
      | .bool present => presenceBeside below place child present members
      | .object inner => presenceWithin below child inner
      | _ => child.reject .presenceExpected

/-- Reads a member. -/
def member (below : Reader) (members : List (String × Json)) (place : Place) (key : String)
    (value : Json) : Except Rejection PlacedCriterion := do
  let child ← place.key key
  match Keyword.ofKey? key with
  | some keyword => keyworded below members place child key keyword value
  | none => child.reject (.unknownKey key)

/-- Whether a key only makes sense beside a boolean `presence`. -/
def isPresenceSibling (key : String) : Bool :=
  key = "source" || key = "sinceDateComparison" || key = "elapsedTimeComparison"

/-- Whether the members have a boolean `presence`. -/
def hasBooleanPresence (members : List (String × Json)) : Bool :=
  match Json.find? members "presence" with
  | some (.bool _) => true
  | _ => false

/-- Reads the members in `rest`, of an object whose members are `members`; the ones that belong to a
boolean `presence` are read with it. -/
def parts (below : Reader) (members : List (String × Json)) (place : Place) :
    List (String × Json) → Except Rejection (List PlacedCriterion)
  | [] => .ok []
  | (key, value) :: rest =>
      if isPresenceSibling key then
        if hasBooleanPresence members then parts below members place rest
        else do (← place.key key).reject (.strayPresenceKey key)
      else do
        let first ← member below members place key value
        return first :: (← parts below members place rest)

/-- Reads the criterion at a place, given the reader for what is below it. -/
def level (below : Reader) : Reader
  | .object [], place => .ok (matchAll place)
  | .object members, place => do return allOf place (← parts below members place members)
  | _, place => place.reject .notAnObject

/-! ### All levels -/

/-- Reads a criterion that has `levels` levels below it. -/
def readWithin : Nat → Reader
  | 0 => level fun _ place => place.reject (.nestedTooDeep place.limits.maxDepth)
  | levels + 1 => level (readWithin levels)

/-- Reads the criterion at a place. -/
def read (json : Json) (place : Place) : Except Rejection PlacedCriterion :=
  readWithin (place.limits.maxDepth - place.depth) json place

/-- Reads a document under limits. -/
def ofJson (limits : Limits) (json : Json) : Except Rejection PlacedCriterion := do
  let criterion ← read json (.root limits)
  if limits.maxNodes < criterion.nodeCount then
    (Place.root limits).reject (.tooManyNodes criterion.nodeCount limits.maxNodes)
  else return criterion

/-- Why a text is no criterion. -/
inductive TextFault
  | malformed
  | rejected (rejection : Rejection)
  deriving DecidableEq

/-- Reads the document of a JSON text under limits. -/
def ofText (limits : Limits) (text : String) : Except TextFault PlacedCriterion :=
  match Json.ofText? text with
  | none => .error .malformed
  | some json => (ofJson limits json).mapError .rejected

end Criterion

end Audience
