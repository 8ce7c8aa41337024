import Audience.Calendar.Timestamp
import Audience.Json.Fields
import Audience.Subject.Record

/-!
# Subjects as JSON documents

* **`Record.toJson`**, **`Subject.toJson`**: every field, `null` where nothing is known.
* **`Record.ofSpelling?`**, **`Subject.ofSpelling?`**: the readers. Instants are read with the
  freedoms of `Timestamp.lenient?`; the lists and maps may be left out.
* **`Subject.ofText?`**: the subject of a JSON text.
-/

namespace Audience

namespace Timestamp

/-- An instant as a JSON string. -/
def toJson (instant : Instant) : Json := .string (String.ofList (text instant))

/-- Reads an instant. -/
def ofSpelling? (document : Json.Spelling) : Option Instant := do
  lenient? (← document.string?).toList

end Timestamp

namespace SubscriptionStatus

/-- Reads a status: its name, or an object that holds `null` under its name. -/
def ofSpelling? (document : Json.Spelling) : Option SubscriptionStatus :=
  match document with
  | .string name => ofName? name
  | .object [(some name, .null)] => ofName? name
  | _ => none

end SubscriptionStatus

namespace Record

/-- The record as a JSON object. -/
def toJson (record : Record) : Json :=
  let date (instant : Option Instant) : Json := .ofOption (instant.map Timestamp.toJson)
  .ofMembers [
    ("properties", .object record.properties),
    ("updatedAt", .object (record.updatedAt.map fun entry => (entry.1, Timestamp.toJson entry.2))),
    ("createdAt", date record.createdAt),
    ("lastActivityDate", date record.lastActivityDate),
    ("presenceSince", date record.presenceSince),
    ("location", .ofOption (record.location.map Geo.Location.toJson)),
    ("locationDate", date record.locationDate),
    ("subscriptionStatus", .ofOption (record.subscriptionStatus.map fun s => .string s.name))]

/-- Reads a record. -/
def ofSpelling? (document : Json.Spelling) : Option Record := do
  match ← document.entries? ["properties", "updatedAt", "createdAt", "lastActivityDate",
    "presenceSince", "location", "locationDate", "subscriptionStatus"] with
  | [properties, updatedAt, createdAt, lastActivityDate, presenceSince, location, locationDate,
      subscriptionStatus] =>
      return {
        properties := ← properties.orElse? [] (·.members? Json.Spelling.value?)
        updatedAt := ← updatedAt.orElse? [] (·.members? Timestamp.ofSpelling?)
        createdAt := ← createdAt.optional? Timestamp.ofSpelling?
        lastActivityDate := ← lastActivityDate.optional? Timestamp.ofSpelling?
        presenceSince := ← presenceSince.optional? Timestamp.ofSpelling?
        location := ← location.optional? Geo.Location.ofSpelling?
        locationDate := ← locationDate.optional? Timestamp.ofSpelling?
        subscriptionStatus := ← subscriptionStatus.optional? SubscriptionStatus.ofSpelling? }
  | _ => none

/-- Reads a record from a JSON value. -/
def ofJson? (document : Json) : Option Record := ofSpelling? document.spelling

end Record

namespace Subject

/-- The subject as a JSON object. -/
def toJson (subject : Subject) : Json :=
  .ofMembers [
    ("installation", .ofOption (subject.installation.map Record.toJson)),
    ("user", .ofOption (subject.user.map Record.toJson)),
    ("events", .array (subject.events.map Record.toJson))]

/-- Reads a subject. -/
def ofSpelling? (document : Json.Spelling) : Option Subject := do
  match ← document.entries? ["installation", "user", "events"] with
  | [installation, user, events] =>
      return {
        installation := ← installation.optional? Record.ofSpelling?
        user := ← user.optional? Record.ofSpelling?
        events := ← events.orElse? [] (·.items? Record.ofSpelling?) }
  | _ => none

/-- Reads a subject from a JSON value. -/
def ofJson? (document : Json) : Option Subject := ofSpelling? document.spelling

/-- Reads a subject from a JSON text. -/
def ofText? (text : String) : Option Subject := do
  ofSpelling? (← Json.Spelling.ofText? Json.nestingLimit text)

end Subject

end Audience
