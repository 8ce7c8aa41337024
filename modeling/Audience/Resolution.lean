import Audience.Source
import Audience.Subject.Record

/-!
# Resolution of sources

What a source holds for a subject at an instant.

* **`Situation`**: a subject, the event that is being looked at, and the instant of evaluation.
* **`Resolution`**: nothing, a scope, or a value that was observed.
* **`Situation.resolve`**: resolves a source. Fields are read from the scope at the start of a chain
  of field sources, under the joined path, however the chain is split.
* **`Situation.observe`**: resolves a source for a presence test. A scope is observed while a session
  is active, and last changed when that session started.
-/

namespace Audience

/-- A resolved value. Instants are epoch milliseconds. -/
inductive Datum
  | json (value : Json)
  | date (instant : Int)
  /-- The time between two instants. -/
  | elapsed (since now : Int)
  | location (place : Geo.Location)

instance : Inhabited Datum := ⟨.json .null⟩

/-- A value and the instant of its last change, if that is known. -/
structure Observation where
  datum : Datum
  changedAt : Option Int

/-- What a source resolves to. -/
inductive Resolution
  | absent
  | scope (record : Record)
  | value (observation : Observation)

namespace Resolution

instance : Inhabited Resolution := ⟨absent⟩

/-- An instant that is its own last change. -/
def ofMillis (millis : Int) : Resolution := value ⟨.date millis, some millis⟩

/-- An instant that may be unknown. -/
def ofInstant : Option Instant → Resolution
  | some instant => ofMillis instant.millis
  | none => absent

/-- A scope that may be missing. -/
def ofRecord : Option Record → Resolution
  | some record => scope record
  | none => absent

/-- What a presence test sees. -/
def observed : Resolution → Option Observation
  | absent => none
  | scope record =>
      record.presenceSince.map fun since => ⟨.date since.millis, some since.millis⟩
  | value observation => some observation

/-- The instant of the last change a presence test sees. -/
def changedAt (resolution : Resolution) : Option Int :=
  resolution.observed.bind Observation.changedAt

/-- The value, unless there is none or a scope. -/
def value? : Resolution → Option Datum
  | value observation => some observation.datum
  | _ => none

end Resolution

/-- A subject, the event that is being looked at, and the instant of evaluation. -/
structure Situation where
  subject : Subject
  event : Option Record
  now : Int

namespace Situation

/-- The situation before any event is looked at. -/
def ofSubject (subject : Subject) (now : Int) : Situation := ⟨subject, none, now⟩

/-- The situation in which an event is looked at. -/
def withEvent (situation : Situation) (event : Record) : Situation :=
  { situation with event := some event }

/-- The record of a scope. -/
def scope? (situation : Situation) : Source → Option Record
  | .installation => situation.subject.installation
  | .user => situation.subject.user
  | .event => situation.event
  | _ => none

/-- The start of a chain of field sources, and the joined path from there. -/
def fieldChain : Source → List String → Source × List String
  | .field parent path, segments => fieldChain parent (path ++ segments)
  | source, segments => (source, segments)

/-- A custom field of a record. -/
def fieldOf (record : Record) (path : List String) : Resolution :=
  match record.field? path with
  | some value =>
      .value ⟨.json value, (record.fieldChanged? (".".intercalate path)).map Instant.millis⟩
  | none => .absent

/-- The field at the end of a chain of field sources. -/
def resolveField (situation : Situation) (parent : Source) (path : List String) : Resolution :=
  let (start, segments) := fieldChain parent path
  match situation.scope? start with
  | some record => fieldOf record segments
  | none => .absent

/-- The location of a record. -/
def locationOf (record : Record) : Resolution :=
  match record.location with
  | some location => .value ⟨.location location, record.locationDate.map Instant.millis⟩
  | none => .absent

/-- What a source holds. -/
def resolve (situation : Situation) : Source → Resolution
  | .installation => .ofRecord situation.subject.installation
  | .user => .ofRecord situation.subject.user
  | .event => .ofRecord situation.event
  | .lastActivity parent =>
      .ofInstant ((situation.scope? parent).bind Record.lastActivityDate)
  | .field parent path => situation.resolveField parent path
  | .sinceDate parent =>
      match (situation.resolve parent).changedAt with
      | some since => .ofMillis since
      | none => .absent
  | .elapsedTime parent =>
      match (situation.resolve parent).changedAt with
      | some since => .value ⟨.elapsed since situation.now, some since⟩
      | none => .absent
  | .location parent =>
      match situation.scope? parent with
      | some record => locationOf record
      | none => .absent
  | .locationDate parent =>
      .ofInstant ((situation.scope? parent).bind Record.locationDate)

/-- What a presence test sees of a source. -/
def observe (situation : Situation) (source : Source) : Option Observation :=
  (situation.resolve source).observed

end Situation

end Audience
