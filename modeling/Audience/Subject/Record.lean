import Audience.Calendar.Instant
import Audience.Geo.Location

/-!
# Records

What is known about an installation, a user or an event.

* **`Record`**: custom properties, the instants at which fields changed, and the typed fields.
* **`Record.field?`**: a custom field by its path; `null` counts as missing.
* **`Record.fieldChanged?`**: when a field last changed, or else when the record was created.
-/

namespace Audience

/-- Whether messages are welcome. -/
inductive SubscriptionStatus
  | optIn
  | optOut
  | softOptOut
  deriving DecidableEq

namespace SubscriptionStatus

/-- The name of a status. -/
def name : SubscriptionStatus → String
  | optIn => "optIn"
  | optOut => "optOut"
  | softOptOut => "softOptOut"

/-- The status of a name. -/
def ofName? (name : String) : Option SubscriptionStatus :=
  if name = "optIn" then some optIn
  else if name = "optOut" then some optOut
  else if name = "softOptOut" then some softOptOut
  else none

theorem ofName?_name (status : SubscriptionStatus) : ofName? status.name = some status := by
  cases status <;> decide

end SubscriptionStatus

/-- What is known about an installation, a user or an event. The properties and the instants of
change are listed in the order of their keys. -/
structure Record where
  /-- Custom fields. -/
  properties : List (String × Json)
  /-- When fields last changed, by their dotted paths. -/
  updatedAt : List (String × Instant)
  createdAt : Option Instant
  lastActivityDate : Option Instant
  /-- Since when a session has been active. -/
  presenceSince : Option Instant
  location : Option Geo.Location
  locationDate : Option Instant
  subscriptionStatus : Option SubscriptionStatus

namespace Record

/-- The record that knows nothing. -/
def empty : Record := ⟨[], [], none, none, none, none, none, none⟩

instance : Inhabited Record := ⟨empty⟩

/-- The value a path leads to within a value. -/
def follow? : Json → List String → Option Json
  | value, [] => some value
  | value, segment :: rest => do follow? (← value.member? segment) rest

/-- A custom field that is not `null`. -/
def field? (record : Record) (path : List String) : Option Json :=
  match path with
  | [] => none
  | first :: rest => do
      let value ← follow? (← Json.find? record.properties first) rest
      if value.isNull then none else some value

/-- When the field at a dotted path last changed, or else when the record was created. -/
def fieldChanged? (record : Record) (path : String) : Option Instant :=
  Json.find? record.updatedAt path <|> record.createdAt

/-- The record with a property set. -/
def withProperty (record : Record) (key : String) (value : Json) : Record :=
  { record with properties := Json.put record.properties key value }

/-- The record with the instant of a change noted. -/
def withFieldChanged (record : Record) (path : String) (instant : Instant) : Record :=
  { record with updatedAt := Json.put record.updatedAt path instant }

/-- The record with the instant of the last activity. -/
def withLastActivity (record : Record) (instant : Instant) : Record :=
  { record with lastActivityDate := some instant }

/-- The record with a session active since an instant. -/
def withPresenceSince (record : Record) (instant : Instant) : Record :=
  { record with presenceSince := some instant }

/-- The record with a location and when it was taken. -/
def withLocation (record : Record) (location : Geo.Location) (taken : Option Instant) : Record :=
  { record with location := some location, locationDate := taken }

end Record

/-- An installation, the user it belongs to and the events it tracked. -/
structure Subject where
  installation : Option Record
  user : Option Record
  events : List Record

namespace Subject

/-- The subject nothing is known about. -/
def empty : Subject := ⟨none, none, []⟩

instance : Inhabited Subject := ⟨empty⟩

end Subject

end Audience
