/-!
# Data sources

Where the value a criterion tests is read from: a scope, or something read below another source.

* **`Source`**: the sources; the scopes are the roots.
* **`Source.path`**: the names from the root down, joined by dots.
* **`Source.isRoot`**, **`Source.isDate`**, **`Source.isDuration`**, **`Source.isField`**: the kinds
  that decide what may be asked of a source.
-/

namespace Audience

/-- A source of values. -/
inductive Source
  /-- The installation. -/
  | installation
  /-- The user. -/
  | user
  /-- The event that is being looked at. -/
  | event
  /-- When the scope was last active. -/
  | lastActivity (parent : Source)
  /-- A custom field below a scope or field. -/
  | field (parent : Source) (path : List String)
  /-- When the parent last changed. -/
  | sinceDate (parent : Source)
  /-- How long ago the parent last changed. -/
  | elapsedTime (parent : Source)
  /-- Where the scope is. -/
  | location (parent : Source)
  /-- When the location of the scope was taken. -/
  | locationDate (parent : Source)
  deriving DecidableEq

namespace Source

instance : Inhabited Source := ⟨installation⟩

/-- The source this one is read from. -/
def parent? : Source → Option Source
  | installation | user | event => none
  | lastActivity parent | field parent _ | sinceDate parent | elapsedTime parent
  | location parent | locationDate parent => some parent

/-- The name of a source below its parent. -/
def name : Source → String
  | installation => "installation"
  | user => "user"
  | event => "event"
  | lastActivity _ => "lastActivityDate"
  | field _ path => ".".intercalate path
  | sinceDate _ => "presence.sinceDate"
  | elapsedTime _ => "presence.elapsedTime"
  | location _ => "geo.location"
  | locationDate _ => "geo.date"

/-- The names from the root down. -/
def path : Source → String
  | installation => installation.name
  | user => user.name
  | event => event.name
  | lastActivity parent => parent.path ++ "." ++ (lastActivity parent).name
  | field parent segments => parent.path ++ "." ++ (field parent segments).name
  | sinceDate parent => parent.path ++ "." ++ (sinceDate parent).name
  | elapsedTime parent => parent.path ++ "." ++ (elapsedTime parent).name
  | location parent => parent.path ++ "." ++ (location parent).name
  | locationDate parent => parent.path ++ "." ++ (locationDate parent).name

/-- The scope a source is ultimately read from. -/
def root : Source → Source
  | installation => installation
  | user => user
  | event => event
  | lastActivity parent | field parent _ | sinceDate parent | elapsedTime parent
  | location parent | locationDate parent => parent.root

/-- Whether the source is a scope. -/
def isRoot : Source → Bool
  | installation | user | event => true
  | _ => false

/-- Whether the source is a scope with an activity, a location and a subscription. -/
def isOwner : Source → Bool
  | installation | user => true
  | _ => false

/-- Whether the source is a custom field. -/
def isField : Source → Bool
  | field _ _ => true
  | _ => false

/-- Whether custom fields can be read from the source. -/
def hasFields (source : Source) : Bool := source.isRoot || source.isField

/-- Whether the values of the source are instants. -/
def isDate : Source → Bool
  | lastActivity _ | sinceDate _ | locationDate _ => true
  | _ => false

/-- Whether the values of the source are lengths of time. -/
def isDuration : Source → Bool
  | elapsedTime _ => true
  | _ => false

end Source

end Audience
