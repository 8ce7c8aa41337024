import Audience.Criterion.Document

/-!
# The grammar of criteria documents

Which JSON values spell a criterion, said without a reader. What a value may be depends on the source
in force where it stands, and for `presence` on the members beside it.

* **`Grammar.IsLiteral`**: literals, under a source.
* **`Grammar.Denotes`**: the source that a dotted path stands for.
* **`Keyword.key`**: the keys of the keywords.
* **`Grammar.IsQuestion`**: what may be asked of a value.
* **`Grammar.IsCriterion`**, **`Grammar.IsMember`**: criteria, and what may stand under a keyword.
-/

namespace Audience

/-- The key that asks for a keyword. -/
def Keyword.key : Keyword → String
  | field path => "." ++ path
  | order operator => operator.key
  | equal => "eq"
  | any => "any"
  | all => "all"
  | startsWith => "prefix"
  | inside => "inside"
  | and => "and"
  | or => "or"
  | not => "not"
  | installation => "installation"
  | user => "user"
  | event => "event"
  | lastActivity => "lastActivityDate"
  | geo => "geo"
  | subscription => "subscriptionStatus"
  | presence => "presence"

namespace Grammar

/-! ### Literals -/

/-- A number is found under a key of a value. -/
def HasNumber (body : Json) (key : String) (value : Binary64) : Prop :=
  (body.member? key).bind Json.number? = some value

/-- A latitude and a longitude, both in range. -/
inductive IsLocation (body : Json) : Prop
  | mk {lat lon : Binary64} (hlat : HasNumber body "lat" lat) (hlon : HasNumber body "lon" lon)
      (hlatRange : Geo.Location.within 90 lat) (hlonRange : Geo.Location.within 180 lon)

/-- A center that is a location, and a radius that is finite and not negative. -/
inductive IsCircle (body : Json) : Prop
  | mk {center : Json} {radius : Binary64} (hcenter : body.member? "center" = some center)
      (hlocation : IsLocation center) (hradius : HasNumber body "radius" radius)
      (hfinite : radius.isFinite) (hsign : Binary64.zero.atMost radius)

/-- Four edges in range, `bottom` not above `top`. -/
inductive IsBox (body : Json) : Prop
  | mk {top right bottom left : Binary64} (htop : HasNumber body "top" top)
      (hright : HasNumber body "right" right) (hbottom : HasNumber body "bottom" bottom)
      (hleft : HasNumber body "left" left) (htopRange : Geo.Location.within 90 top)
      (hrightRange : Geo.Location.within 180 right)
      (hbottomRange : Geo.Location.within 90 bottom)
      (hleftRange : Geo.Location.within 180 left) (horder : top.below bottom = false)

/-- A typed value that is an area. -/
inductive IsArea : Json → Prop
  | circle {body : Json} (h : IsCircle body) : IsArea (.object [("geocircle", body)])
  | box {body : Json} (h : IsBox body) : IsArea (.object [("geobox", body)])

/-- The text of a duration. -/
def IsDurationText (text : String) : Prop := (Duration.ofText? text).isSome

/-- The text of a date: RFC 3339, or a day alone. -/
def IsDateText (text : String) : Prop :=
  (Timestamp.strict? text.toList).isSome ∨ (Timestamp.day? text.toList).isSome

/-- A number of epoch milliseconds in the calendar range. -/
def IsDateNumber (value : Json.Number) : Prop := InCalendar value.toBinary64.toWord

/-- A date: its text or a number of milliseconds. -/
inductive IsDate : Json → Prop
  | text {text : String} (h : IsDateText text) : IsDate (.string text)
  | number {value : Json.Number} (h : IsDateNumber value) : IsDate (.number value)

/-- A duration: its text or a number of milliseconds. -/
inductive IsDuration : Json → Prop
  | text {text : String} (h : IsDurationText text) : IsDuration (.string text)
  | number {value : Json.Number} : IsDuration (.number value)

/-- A move from the instant of evaluation, which only a text can spell. -/
inductive IsRelativeDate : Json → Prop
  | text {text : String} (h : IsDurationText text) : IsRelativeDate (.string text)

/-- What may stand under the type name of a typed value. -/
def IsTyped (type : String) (body : Json) : Prop :=
  match type with
  | "date" => IsDate body
  | "duration" => IsDuration body
  | "relativeDate" => IsRelativeDate body
  | "geocircle" => IsCircle body
  | "geobox" => IsBox body
  | _ => False

/-- A literal under a source. A bare text or number under a source of instants or lengths of time
must spell one. -/
inductive IsLiteral (source : Source) : Json → Prop
  | boolean {value : Bool} : IsLiteral source (.bool value)
  | dateNumber {value : Json.Number} (hdate : source.isDate) (h : IsDateNumber value) :
      IsLiteral source (.number value)
  | number {value : Json.Number} (hdate : source.isDate = false) : IsLiteral source (.number value)
  | dateText {text : String} (hdate : source.isDate) (h : IsDurationText text ∨ IsDateText text) :
      IsLiteral source (.string text)
  | durationText {text : String} (hduration : source.isDuration) (h : IsDurationText text) :
      IsLiteral source (.string text)
  | text {text : String} (hdate : source.isDate = false) (hduration : source.isDuration = false) :
      IsLiteral source (.string text)
  | typed {type : String} {body : Json} (h : IsTyped type body) :
      IsLiteral source (.object [(type, body)])

/-! ### Sources -/

/-- A dotted path without empty segments. -/
def IsFieldPath (path : String) : Prop := ∀ segment ∈ Text.segments '.' path, segment ≠ ""

/-- The source that segments lead to from a base. -/
inductive Below (base : Source) : List String → Source → Prop
  | self : Below base [] base
  | lastActivity (howner : base.isOwner) : Below base ["lastActivityDate"] (.lastActivity base)
  | field {segments : List String} (hne : segments ≠ [])
      (hactivity : segments ≠ ["lastActivityDate"]) (hfields : base.hasFields) :
      Below base segments (.field base segments)

/-- The source that a dotted path stands for under a source: from the installation or user if it
starts with one, and otherwise from there. -/
inductive Denotes (source : Source) (path : String) : Source → Prop
  | installation {rest : List String} {about : Source} (hpath : IsFieldPath path)
      (hsegments : Text.segments '.' path = "installation" :: rest)
      (h : Below .installation rest about) : Denotes source path about
  | user {rest : List String} {about : Source} (hpath : IsFieldPath path)
      (hsegments : Text.segments '.' path = "user" :: rest)
      (h : Below .user rest about) : Denotes source path about
  | here {about : Source} (hpath : IsFieldPath path)
      (hinstallation : ∀ rest, Text.segments '.' path ≠ "installation" :: rest)
      (huser : ∀ rest, Text.segments '.' path ≠ "user" :: rest)
      (h : Below source (Text.segments '.' path) about) : Denotes source path about

/-! ### Criteria -/

/-- What may be asked of a value under a keyword. -/
inductive IsQuestion (source : Source) : Keyword → Json → Prop
  | order {operator : Operator} {value : Json} (h : IsLiteral source value) :
      IsQuestion source (.order operator) value
  | equal {value : Json} (h : IsLiteral source value) : IsQuestion source .equal value
  | any {items : List Json} (h : ∀ item ∈ items, IsLiteral source item) :
      IsQuestion source .any (.array items)
  | all {items : List Json} (h : ∀ item ∈ items, IsLiteral source item) :
      IsQuestion source .all (.array items)
  | startsWith {text : String} : IsQuestion source .startsWith (.string text)
  | inside {value : Json} (h : IsArea value) : IsQuestion source .inside value

/-- The source of a boolean `presence`: the one in force, unless a path stands beside it. -/
inductive IsAbout (source : Source) (members : List (String × Json)) : Source → Prop
  | here (h : Json.find? members "source" = none) : IsAbout source members source
  | path {text : String} {about : Source} (h : Json.find? members "source" = some (.string text))
      (hdenotes : Denotes source text about) : IsAbout source members about

/-- The keys that may stand beside a boolean `presence`. -/
def siblingKeys : List String := ["source", "sinceDateComparison", "elapsedTimeComparison"]

mutual

/-- A criterion under a source: an object in which every member is one of a keyword, or stands beside
a boolean `presence`. -/
inductive IsCriterion : Source → Json → Prop
  | object {source : Source} {members : List (String × Json)}
      (hkeys : ∀ name value, (name, value) ∈ members →
        (∃ keyword : Keyword, name = keyword.key) ∨
          (name ∈ siblingKeys ∧ ∃ present, Json.find? members "presence" = some (.bool present)))
      (hmembers : ∀ (keyword : Keyword) (value : Json), (keyword.key, value) ∈ members →
        IsMember source members keyword value) :
      IsCriterion source (.object members)

/-- What may stand under a keyword in an object with given members. -/
inductive IsMember : Source → List (String × Json) → Keyword → Json → Prop
  | field {source : Source} {members : List (String × Json)} {path : String} {value : Json}
      (hpath : IsFieldPath path) (hfields : source.hasFields)
      (h : IsCriterion (.field source (Text.segments '.' path)) value) :
      IsMember source members (.field path) value
  | question {source : Source} {members : List (String × Json)} {keyword : Keyword} {value : Json}
      (hvalue : source.isRoot = false) (h : IsQuestion source keyword value) :
      IsMember source members keyword value
  | and {source : Source} {members : List (String × Json)} {items : List Json}
      (h : ∀ item ∈ items, IsCriterion source item) : IsMember source members .and (.array items)
  | or {source : Source} {members : List (String × Json)} {items : List Json}
      (h : ∀ item ∈ items, IsCriterion source item) : IsMember source members .or (.array items)
  | not {source : Source} {members : List (String × Json)} {value : Json}
      (h : IsCriterion source value) : IsMember source members .not value
  | installation {source : Source} {members : List (String × Json)} {value : Json}
      (hroot : source.isRoot) (h : IsCriterion .installation value) :
      IsMember source members .installation value
  | user {source : Source} {members : List (String × Json)} {value : Json}
      (hroot : source.isRoot) (h : IsCriterion .user value) : IsMember source members .user value
  | event {source : Source} {members : List (String × Json)} {value : Json}
      (hroot : source.isRoot) (h : IsCriterion .event value) : IsMember source members .event value
  | lastActivity {source : Source} {members : List (String × Json)} {value : Json}
      (howner : source.isOwner) (h : IsCriterion (.lastActivity source) value) :
      IsMember source members .lastActivity value
  | geo {source : Source} {members inner : List (String × Json)} (howner : source.isOwner)
      (hne : inner ≠ []) (hkeys : ∀ name value, (name, value) ∈ inner → name ∈ ["location", "date"])
      (hlocation : ∀ value, ("location", value) ∈ inner → IsCriterion (.location source) value)
      (hdate : ∀ value, ("date", value) ∈ inner → IsCriterion (.locationDate source) value) :
      IsMember source members .geo (.object inner)
  | subscription {source : Source} {members : List (String × Json)} {status : SubscriptionStatus}
      (howner : source.isOwner) : IsMember source members .subscription (.string status.name)
  | presence {source about : Source} {members : List (String × Json)} {present : Bool}
      (habout : IsAbout source members about)
      (hsince : ∀ value, Json.find? members "sinceDateComparison" = some value →
        IsCriterion (.sinceDate about) value)
      (helapsed : ∀ value, Json.find? members "elapsedTimeComparison" = some value →
        IsCriterion (.elapsedTime about) value) :
      IsMember source members .presence (.bool present)
  | presenceOf {source : Source} {members inner : List (String × Json)}
      (hkeys : ∀ name value, (name, value) ∈ inner →
        name ∈ ["present", "sinceDate", "elapsedTime"])
      (hgiven : ∃ present, ("present", .bool present) ∈ inner)
      (hpresent : ∀ value, ("present", value) ∈ inner → ∃ present, value = .bool present)
      (hsince : ∀ value, ("sinceDate", value) ∈ inner → IsCriterion (.sinceDate source) value)
      (helapsed : ∀ value, ("elapsedTime", value) ∈ inner →
        IsCriterion (.elapsedTime source) value) :
      IsMember source members .presence (.object inner)

end

end Grammar

end Audience
