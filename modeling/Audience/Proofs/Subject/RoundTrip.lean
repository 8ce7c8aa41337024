import Audience.Proofs.Calendar.Written
import Audience.Proofs.Json.Canonical
import Audience.Proofs.Numeric.Finite
import Audience.Subject.Document
import Mathlib.Data.Option.Basic

/-!
# Subjects read back from their documents

Every field of a record is written under its name and read from there, so a subject is read back as it
was: unset fields are `null`, an instant is its text, a status its name, and the coordinates of a place
are the numbers they are. The fields may be written in any order, and so may the instants of change. Two
things are needed of a subject for this, and every subject that was read has them: properties and
instants of change are listed in the order of their keys, and coordinates are finite, since a document
has no other numbers.

* **`Record.Canonical`**, **`Subject.Canonical`**: these conditions.
* **`Record.WrittenAs`**, **`Subject.WrittenAs`**: the values a record and a subject are written as.
* **`Record.ofSpelling?_written`**, **`Subject.ofSpelling?_written`**: they are read back from these.
* **`Record.exists_entries`**: what a record was read from. **`Record.canonical_of_ofSpelling?`**,
  **`Subject.canonical_of_ofSpelling?`**: what was read is canonical.
-/

namespace Audience

open Json

/-! ### Instants, statuses and places -/

theorem Timestamp.ofSpelling?_toJson (instant : Instant) :
    ofSpelling? (toJson instant).spelling = some instant := by
  rw [ofSpelling?, toJson, spelling, Spelling.string?, Option.bind_eq_bind, Option.bind_some,
    String.toList_ofList, lenient?_text]

theorem Timestamp.toJson_ne_null (instant : Instant) : (toJson instant).spelling ≠ .null := by
  intro h
  cases h

theorem SubscriptionStatus.ofSpelling?_name (status : SubscriptionStatus) :
    ofSpelling? (Json.string status.name).spelling = some status :=
  ofName?_name status

namespace Geo.Location

variable {location : Location}

/-- Both coordinates are finite. -/
structure IsFinite (location : Location) : Prop where
  lat : location.lat.isFinite = true
  lon : location.lon.isFinite = true

theorem number?_ofBinary64 {value : Binary64} (h : value.isFinite = true) :
    (Json.ofBinary64 value).spelling.number? = some value := by
  cases value with
  | finite negative size => rfl
  | _ => cases h

theorem ofSpelling?_toJson (h : location.IsFinite) :
    ofSpelling? location.toJson.spelling = some location := by
  have hentries : location.toJson.spelling.entries? ["lat", "lon"] =
      some [.given (Json.ofBinary64 location.lat).spelling,
        .given (Json.ofBinary64 location.lon).spelling] :=
    entries?_ofMembers [("lat", .ofBinary64 location.lat), ("lon", .ofBinary64 location.lon)]
      (by simp)
  rw [ofSpelling?, hentries]
  show (do return ⟨← (Json.ofBinary64 location.lat).spelling.number?,
    ← (Json.ofBinary64 location.lon).spelling.number?⟩ : Option Location) = some location
  rw [number?_ofBinary64 h.lat, number?_ofBinary64 h.lon]
  rfl

theorem toJson_ne_null (location : Location) : location.toJson.spelling ≠ .null := by
  intro h
  cases h

end Geo.Location

/-! ### Records -/

namespace Record

variable {record : Record}

/-- What the types of a record leave open: the order in which its properties and instants of change are
listed, and that its coordinates are finite. -/
structure Canonical (record : Record) : Prop where
  properties : (Json.object record.properties).Canonical
  updatedAt : Ascending record.updatedAt
  location : ∀ location ∈ record.location, location.IsFinite

/-- An instant that may be unset is read back. -/
theorem optional?_date (field : Option Instant) :
    (Entry.given (Json.ofOption (field.map Timestamp.toJson)).spelling).optional?
      Timestamp.ofSpelling? = some field :=
  Entry.optional?_ofOption Timestamp.toJson (fun instant _ => Timestamp.ofSpelling?_toJson instant)
    Timestamp.toJson_ne_null

theorem optional?_status (field : Option SubscriptionStatus) :
    (Entry.given (Json.ofOption (field.map fun s => Json.string s.name)).spelling).optional?
      SubscriptionStatus.ofSpelling? = some field := by
  refine Entry.optional?_ofOption (fun s => Json.string s.name)
    (fun status _ => SubscriptionStatus.ofSpelling?_name status) fun status h => ?_
  cases h

/-- The members a record is written as. -/
def members (record : Record) : List (String × Json) := [
  ("properties", .object record.properties),
  ("updatedAt", .object (record.updatedAt.map fun entry => (entry.1, Timestamp.toJson entry.2))),
  ("createdAt", .ofOption (record.createdAt.map Timestamp.toJson)),
  ("lastActivityDate", .ofOption (record.lastActivityDate.map Timestamp.toJson)),
  ("presenceSince", .ofOption (record.presenceSince.map Timestamp.toJson)),
  ("location", .ofOption (record.location.map Geo.Location.toJson)),
  ("locationDate", .ofOption (record.locationDate.map Timestamp.toJson)),
  ("subscriptionStatus", .ofOption (record.subscriptionStatus.map fun s => .string s.name))]

/-- The names of the fields of a record, in their order. -/
def fieldNames : List String := ["properties", "updatedAt", "createdAt", "lastActivityDate",
  "presenceSince", "location", "locationDate", "subscriptionStatus"]

theorem nodup_fieldNames : fieldNames.Nodup := by decide

/-- The record is written as the value: its fields and its instants of change stand there in any
order. -/
inductive WrittenAs (record : Record) : Json → Prop
  | object {changes : List (String × Instant)} {members : List (String × Json)}
      (hchanges : changes.Perm record.updatedAt)
      (hmembers : members.Perm { record with updatedAt := changes }.members) :
      WrittenAs record (.object members)

theorem writtenAs_toJson (record : Record) : record.WrittenAs record.toJson :=
  have hmembers : (ordered record.members).Perm record.members := ordered_perm nodup_fieldNames
  .object (.refl record.updatedAt) hmembers

theorem WrittenAs.ne_null {json : Json} (h : record.WrittenAs json) : json.spelling ≠ .null := by
  cases h
  nofun

/-- Every field stands under its name. -/
theorem entries?_written {members : List (String × Json)} (write : Json → Spelling)
    (h : members.Perm record.members) :
    (Spelling.object (members.map fun entry => (some entry.1, write entry.2))).entries? fieldNames =
      some (record.members.map fun entry => .given (write entry.2)) :=
  entries?_of_perm write h nodup_fieldNames

/-- A record is read back from what it is written as. -/
theorem ofSpelling?_written {json : Json} (h : record.Canonical) (hwritten : record.WrittenAs json) :
    ofSpelling? json.spelling = some record := by
  obtain ⟨hchanges, hmembers⟩ := hwritten
  have hentries := entries?_written spelling hmembers
  rw [← memberSpellings_eq_map, fieldNames] at hentries
  have hproperties := members?_values h.properties
  have hupdated := members?_written Timestamp.toJson h.updatedAt hchanges
    fun entry _ => Timestamp.ofSpelling?_toJson entry.2
  have hlocation := Entry.optional?_ofOption Geo.Location.toJson
    (fun location hlocation => Geo.Location.ofSpelling?_toJson (h.location location hlocation))
    Geo.Location.toJson_ne_null
  rw [spelling, ofSpelling?, hentries]
  simp only [members, List.map_cons, List.map_nil, Entry.orElse?, hproperties, hupdated, optional?_date,
    hlocation, optional?_status, some_bind]
  rfl

/-- What the fields of a record were read from whose types leave something open. -/
theorem exists_entries {written : Spelling} (h : ofSpelling? written = some record) :
    ∃ properties updatedAt createdAt lastActivityDate presenceSince location locationDate
        subscriptionStatus : Entry,
      written.entries? fieldNames = some [properties, updatedAt, createdAt, lastActivityDate,
        presenceSince, location, locationDate, subscriptionStatus] ∧
      properties.orElse? [] (·.members? Spelling.value?) = some record.properties ∧
      updatedAt.orElse? [] (·.members? Timestamp.ofSpelling?) = some record.updatedAt ∧
      location.optional? Geo.Location.ofSpelling? = some record.location := by
  obtain ⟨entries, hentries, h⟩ := Option.bind_eq_some_iff.1 h
  split at h
  case h_2 => cases h
  obtain ⟨_, hproperties, h⟩ := Option.bind_eq_some_iff.1 h
  obtain ⟨_, hupdated, h⟩ := Option.bind_eq_some_iff.1 h
  obtain ⟨_, _, h⟩ := Option.bind_eq_some_iff.1 h
  obtain ⟨_, _, h⟩ := Option.bind_eq_some_iff.1 h
  obtain ⟨_, _, h⟩ := Option.bind_eq_some_iff.1 h
  obtain ⟨_, hlocation, h⟩ := Option.bind_eq_some_iff.1 h
  obtain ⟨_, _, h⟩ := Option.bind_eq_some_iff.1 h
  obtain ⟨_, _, h⟩ := Option.bind_eq_some_iff.1 h
  cases h
  exact ⟨_, _, _, _, _, _, _, _, hentries, hproperties, hupdated, hlocation⟩

end Record

/-! ### Subjects -/

namespace Subject

variable {subject : Subject}

/-- Every record of the subject is canonical. -/
structure Canonical (subject : Subject) : Prop where
  installation : ∀ record ∈ subject.installation, record.Canonical
  user : ∀ record ∈ subject.user, record.Canonical
  events : ∀ record ∈ subject.events, record.Canonical

/-- The members of a subject whose records are written as the values. -/
def members (installation user : Option Json) (events : List Json) : List (String × Json) := [
  ("installation", .ofOption installation),
  ("user", .ofOption user),
  ("events", .array events)]

/-- The names of the fields of a subject. -/
def fieldNames : List String := ["installation", "user", "events"]

theorem nodup_fieldNames : fieldNames.Nodup := by decide

/-- The subject is written as the value: every record is, and the fields stand there in any order. -/
inductive WrittenAs (subject : Subject) : Json → Prop
  | object {installation user : Option Json} {events : List Json} {members : List (String × Json)}
      (hinstallation : Option.Rel Record.WrittenAs subject.installation installation)
      (huser : Option.Rel Record.WrittenAs subject.user user)
      (hevents : List.Forall₂ Record.WrittenAs subject.events events)
      (hmembers : members.Perm (Subject.members installation user events)) :
      WrittenAs subject (.object members)

theorem rel_toJson (field : Option Record) :
    Option.Rel Record.WrittenAs field (field.map Record.toJson) := by
  cases field with
  | none => exact .none
  | some record => exact .some record.writtenAs_toJson

theorem writtenAs_toJson (subject : Subject) : subject.WrittenAs subject.toJson := by
  have hevents : List.Forall₂ Record.WrittenAs subject.events (subject.events.map Record.toJson) :=
    List.forall₂_map_right_iff.2 (List.forall₂_same.2 fun record _ => record.writtenAs_toJson)
  exact .object (rel_toJson subject.installation) (rel_toJson subject.user) hevents
    (ordered_perm nodup_fieldNames)

/-- Every field stands under its name. -/
theorem entries?_written {installation user : Option Json} {events : List Json}
    {members : List (String × Json)} (write : Json → Spelling)
    (h : members.Perm (Subject.members installation user events)) :
    (Spelling.object (members.map fun entry => (some entry.1, write entry.2))).entries? fieldNames =
      some [.given (write (.ofOption installation)), .given (write (.ofOption user)),
        .given (write (.array events))] :=
  entries?_of_perm write h nodup_fieldNames

theorem optional?_written {field : Option Record} {json : Option Json}
    (h : ∀ record ∈ field, record.Canonical) (hwritten : Option.Rel Record.WrittenAs field json) :
    (Entry.given (Json.ofOption json).spelling).optional? Record.ofSpelling? = some field := by
  cases hwritten with
  | none => rfl
  | some hrecord =>
    refine (Entry.optional?_given hrecord.ne_null).trans ?_
    rw [Record.ofSpelling?_written (h _ rfl) hrecord, Option.map_some]

/-- A subject is read back from what it is written as. -/
theorem ofSpelling?_written {json : Json} (h : subject.Canonical) (hwritten : subject.WrittenAs json) :
    ofSpelling? json.spelling = some subject := by
  obtain ⟨hinstallation, huser, hevents, hmembers⟩ := hwritten
  have hentries := entries?_written spelling hmembers
  rw [← memberSpellings_eq_map, fieldNames] at hentries
  have hitems := items?_written (((List.forall₂_and_left _ _).2 ⟨h.events, hevents⟩).imp
    fun _ _ hrecord => Record.ofSpelling?_written hrecord.1 hrecord.2)
  rw [spelling, ofSpelling?, hentries]
  simp only [Entry.orElse?, optional?_written h.installation hinstallation,
    optional?_written h.user huser, hitems, some_bind]
  rfl

end Subject

end Audience
