import Audience.Proofs.Json.TextReading
import Audience.Proofs.Subject.RoundTrip

/-!
# Subjects read back from their texts

Between a subject and its text stand two more steps than between a subject and its document: numbers are
written and read, and containers are nested no deeper than the reader goes. So a subject comes back from
its text unless its properties are nested too deep, and what comes back differs in numbers alone: an
integer is the same, and so is a real number with few digits, while another real number is what the
reader makes of its digits.

* **`Subject.reread`**: what comes back of a subject. **`Subject.HasShortNumbers`**,
  **`Subject.reread_eq_self`**: when that is the subject.
* **`Subject.WrittenAs.reread`**: what comes back of a value is what the subject that comes back is
  written as.
* **`Subject.ofSpelling?_within`**: reading down to a depth. **`Subject.ofText?_text`**: reading a text.
* **`Subject.read_back`**: a subject from its documents and from their texts.
-/

namespace Audience

open Json

/-! ### Records that come back -/

namespace Geo.Location

variable {location : Location}

/-- What comes back of a location. -/
def reread (location : Location) : Location := ⟨location.lat.reread, location.lon.reread⟩

/-- Both coordinates are short. -/
structure HasShortNumbers (location : Location) : Prop where
  lat : location.lat.IsShort
  lon : location.lon.IsShort

theorem reread_eq_self (h : location.HasShortNumbers) : location.reread = location := by
  rw [reread, Binary64.reread_eq_self h.lat, Binary64.reread_eq_self h.lon]

theorem isFinite_reread (h : location.IsFinite) : location.reread.IsFinite :=
  ⟨(Binary64.isFinite_reread _).trans h.lat, (Binary64.isFinite_reread _).trans h.lon⟩

theorem toJson_eq (location : Location) : location.toJson =
    .object [("lat", .ofBinary64 location.lat), ("lon", .ofBinary64 location.lon)] := by
  rw [toJson, ofMembers, ordered_eq_self]
  exact List.pairwise_pair.2 (show "lat" < "lon" by decide)

theorem reread_toJson (location : Location) : location.toJson.reread = location.reread.toJson := by
  rw [toJson_eq, toJson_eq, Json.reread, rereadMembers, rereadMembers, rereadMembers,
    reread_ofBinary64, reread_ofBinary64, reread]

theorem nesting_toJson (location : Location) : location.toJson.nesting = 1 := by
  have hnumber : ∀ value : Binary64, (Json.ofBinary64 value).nesting = 0 := by
    intro value
    cases value <;> rfl
  rw [toJson_eq, nesting, membersNesting, membersNesting, membersNesting, hnumber, hnumber]
  rfl

end Geo.Location

namespace Record

variable {record found : Record} {json : Json} {room : Nat}

/-- What comes back of a record. -/
def reread (record : Record) : Record :=
  { record with
    properties := rereadMembers record.properties
    location := record.location.map Geo.Location.reread }

/-- Every number in the record is an integer or short. -/
structure HasShortNumbers (record : Record) : Prop where
  properties : MembersHaveShortNumbers record.properties
  location : ∀ location ∈ record.location, location.HasShortNumbers

theorem reread_eq_self (h : record.HasShortNumbers) : record.reread = record := by
  have hlocation : record.location.map Geo.Location.reread = record.location :=
    (Option.map_congr fun location hmem => Geo.Location.reread_eq_self (h.location location hmem)).trans
      Option.map_id_apply
  rw [reread, rereadMembers_eq_self h.properties, hlocation]

theorem canonical_reread (h : record.Canonical) : record.reread.Canonical := by
  refine ⟨Json.canonical_reread h.properties, h.updatedAt, fun location hmem => ?_⟩
  obtain ⟨before, hbefore, rfl⟩ := Option.map_eq_some_iff.1 hmem
  exact Geo.Location.isFinite_reread (h.location before hbefore)

/-- What is no location and no property holds no number. -/
theorem rereadMembers_members (record : Record) :
    rereadMembers record.members = record.reread.members := by
  have hdate : ∀ field : Option Instant, (Json.ofOption (field.map Timestamp.toJson)).reread =
      Json.ofOption (field.map Timestamp.toJson) := fun field => by cases field <;> rfl
  have hdates : ∀ dates : List (String × Instant),
      rereadMembers (dates.map fun entry => (entry.1, Timestamp.toJson entry.2)) =
        dates.map fun entry => (entry.1, Timestamp.toJson entry.2) := fun dates => by
    rw [rereadMembers_eq_map, List.map_map]
    rfl
  have hlocation : ∀ field : Option Geo.Location,
      (Json.ofOption (field.map Geo.Location.toJson)).reread =
        Json.ofOption ((field.map Geo.Location.reread).map Geo.Location.toJson) := fun field => by
    cases field with
    | none => rfl
    | some location => exact location.reread_toJson
  have hstatus : ∀ field : Option SubscriptionStatus,
      (Json.ofOption (field.map fun s => Json.string s.name)).reread =
        Json.ofOption (field.map fun s => Json.string s.name) := fun field => by cases field <;> rfl
  simp only [members, rereadMembers, Json.reread, hdate, hdates, hlocation, hstatus]
  rfl

theorem WrittenAs.reread (h : record.WrittenAs json) : record.reread.WrittenAs json.reread := by
  obtain ⟨hchanges, hmembers⟩ := h
  refine .object hchanges ?_
  have hmap := hmembers.map fun entry : String × Json => (entry.1, entry.2.reread)
  rw [← rereadMembers_eq_map, ← rereadMembers_eq_map, rereadMembers_members] at hmap
  exact hmap

/-- Apart from its properties, a record is at most two containers deep. -/
theorem nesting_le_of_mem {entry : String × Json} (hentry : entry ∈ record.members)
    (h : (Json.object record.properties).nesting ≤ room) : entry.2.nesting ≤ room := by
  have hone : 1 ≤ room := Nat.le_trans (Nat.le_add_left 1 _) h
  have hdate : ∀ field : Option Instant,
      (Json.ofOption (field.map Timestamp.toJson)).nesting ≤ room := fun field => by
    cases field <;> exact Nat.zero_le _
  simp only [members, List.mem_cons, List.not_mem_nil, or_false] at hentry
  rcases hentry with rfl | rfl | rfl | rfl | rfl | rfl | rfl | rfl
  · exact h
  · rw [nesting]
    refine Nat.le_trans (Nat.succ_le_succ (membersNesting_le_iff.2 fun entry hmem => ?_)) hone
    obtain ⟨change, -, rfl⟩ := List.mem_map.1 hmem
    exact Nat.le_refl 0
  · exact hdate _
  · exact hdate _
  · exact hdate _
  · cases hlocation : record.location with
    | none => exact Nat.zero_le _
    | some location => exact (Geo.Location.nesting_toJson location).trans_le hone
  · exact hdate _
  · cases hstatus : record.subscriptionStatus <;> exact Nat.zero_le _

/-- A record that is nested too deep is not read. -/
theorem nesting_le_of_ofSpelling? (hwritten : record.WrittenAs json)
    (h : ofSpelling? (json.within room) = some found) : json.nesting ≤ room := by
  obtain ⟨-, hmembers⟩ := hwritten
  cases room with
  | zero => cases h
  | succ room =>
    obtain ⟨properties, _, _, _, _, _, _, _, hentries, hproperties, -, -⟩ := exists_entries h
    rw [within, membersWithin_eq_map, entries?_written (within room) hmembers] at hentries
    obtain ⟨rfl, -⟩ := List.cons.inj (Option.some.inj hentries)
    have hroom : (Json.object record.properties).nesting ≤ room := nesting_le_of_members? hproperties
    refine Nat.succ_le_succ (membersNesting_le_iff.2 fun entry hentry => ?_)
    exact nesting_le_of_mem (hmembers.mem_iff.1 hentry) hroom

end Record

/-! ### Subjects that come back -/

namespace Subject

variable {subject found : Subject} {json : Json} {room : Nat}

/-- What comes back of a subject. -/
def reread (subject : Subject) : Subject where
  installation := subject.installation.map Record.reread
  user := subject.user.map Record.reread
  events := subject.events.map Record.reread

/-- Every number in the subject is an integer or short. -/
structure HasShortNumbers (subject : Subject) : Prop where
  installation : ∀ record ∈ subject.installation, record.HasShortNumbers
  user : ∀ record ∈ subject.user, record.HasShortNumbers
  events : ∀ record ∈ subject.events, record.HasShortNumbers

theorem reread_eq_self (h : subject.HasShortNumbers) : subject.reread = subject := by
  have hfield : ∀ field : Option Record, (∀ record ∈ field, record.HasShortNumbers) →
      field.map Record.reread = field := fun field hfield =>
    (Option.map_congr fun record hmem => Record.reread_eq_self (hfield record hmem)).trans
      Option.map_id_apply
  have hevents : subject.events.map Record.reread = subject.events :=
    (List.map_congr_left fun record hmem => Record.reread_eq_self (h.events record hmem)).trans
      (List.map_id _)
  rw [reread, hfield _ h.installation, hfield _ h.user, hevents]

theorem canonical_reread (h : subject.Canonical) : subject.reread.Canonical := by
  have hfield : ∀ field : Option Record, (∀ record ∈ field, record.Canonical) →
      ∀ record ∈ field.map Record.reread, record.Canonical := fun field hfield record hmem => by
    obtain ⟨before, hbefore, rfl⟩ := Option.map_eq_some_iff.1 hmem
    exact Record.canonical_reread (hfield before hbefore)
  refine ⟨hfield _ h.installation, hfield _ h.user, fun record hmem => ?_⟩
  obtain ⟨before, hbefore, rfl⟩ := List.mem_map.1 hmem
  exact Record.canonical_reread (h.events before hbefore)

theorem rel_reread {field : Option Record} {json : Option Json}
    (h : Option.Rel Record.WrittenAs field json) :
    Option.Rel Record.WrittenAs (field.map Record.reread) (json.map Json.reread) := by
  cases h with
  | none => exact .none
  | some hrecord => exact .some hrecord.reread

/-- What comes back of a value is what the subject that comes back is written as. -/
theorem WrittenAs.reread (h : subject.WrittenAs json) : subject.reread.WrittenAs json.reread := by
  obtain @⟨installation, user, events, members, hinstallation, huser, hevents, hmembers⟩ := h
  have hoption : ∀ field : Option Json, (Json.ofOption field).reread =
      Json.ofOption (field.map Json.reread) := fun field => by cases field <;> rfl
  have hfields : rereadMembers (Subject.members installation user events) =
      Subject.members (installation.map Json.reread) (user.map Json.reread)
        (events.map Json.reread) := by
    simp only [Subject.members, rereadMembers, Json.reread, hoption, rereadItems_eq_map]
  have hmap := hmembers.map fun entry : String × Json => (entry.1, entry.2.reread)
  rw [← rereadMembers_eq_map, ← rereadMembers_eq_map, hfields] at hmap
  have hrecords : List.Forall₂ Record.WrittenAs (subject.events.map Record.reread)
      (events.map Json.reread) :=
    List.forall₂_map_left_iff.2 (List.forall₂_map_right_iff.2 (hevents.imp fun _ _ => .reread))
  exact .object (rel_reread hinstallation) (rel_reread huser) hrecords hmap

theorem nesting_le_of_optional? {field : Option Record} {json : Option Json} {read : Option Record}
    (hwritten : Option.Rel Record.WrittenAs field json)
    (h : (Entry.given ((Json.ofOption json).within room)).optional? Record.ofSpelling? = some read) :
    (Json.ofOption json).nesting ≤ room := by
  cases hwritten with
  | none => exact Nat.zero_le _
  | some hrecord =>
    rename_i record json
    have hnull : json.within room ≠ .null := by
      cases hrecord
      cases room <;> nofun
    obtain ⟨found, hfound, -⟩ := Option.map_eq_some_iff.1 ((Entry.optional?_given hnull).symm.trans h)
    exact Record.nesting_le_of_ofSpelling? hrecord hfound

theorem exists_writtenAs {events : List Record} {written : List Json}
    (h : List.Forall₂ Record.WrittenAs events written) (hmem : json ∈ written) :
    ∃ event : Record, event.WrittenAs json := by
  induction h with
  | nil => cases hmem
  | cons hfirst _ ih =>
    rcases List.mem_cons.1 hmem with rfl | hmem
    · exact ⟨_, hfirst⟩
    · exact ih hmem

theorem nesting_le_of_items? {events : List Record} {written : List Json} {read : List Record}
    (hwritten : List.Forall₂ Record.WrittenAs events written)
    (h : ((Json.array written).within room).items? Record.ofSpelling? = some read) :
    (Json.array written).nesting ≤ room := by
  cases room with
  | zero => cases h
  | succ room =>
    rw [within, Spelling.items?, itemsWithin_eq_map, List.mapM_map] at h
    refine Nat.succ_le_succ (itemsNesting_le_iff.2 fun json hmem => ?_)
    obtain ⟨found, hfound⟩ := exists_step_of_mapM_eq_some h hmem
    obtain ⟨event, hevent⟩ := exists_writtenAs hwritten hmem
    exact Record.nesting_le_of_ofSpelling? hevent hfound

/-- A subject that is nested too deep is not read. -/
theorem nesting_le_of_ofSpelling? (hwritten : subject.WrittenAs json)
    (h : ofSpelling? (json.within room) = some found) : json.nesting ≤ room := by
  obtain @⟨installation, user, events, members, hinstallation, huser, hevents, hmembers⟩ := hwritten
  cases room with
  | zero => cases h
  | succ room =>
    have hentries := entries?_written (within room) hmembers
    rw [fieldNames] at hentries
    rw [within, membersWithin_eq_map, ofSpelling?, hentries, Option.bind_eq_bind, Option.bind_some] at h
    obtain ⟨_, hreadInstallation, h⟩ := Option.bind_eq_some_iff.1 h
    obtain ⟨_, hreadUser, h⟩ := Option.bind_eq_some_iff.1 h
    obtain ⟨_, hreadEvents, -⟩ := Option.bind_eq_some_iff.1 h
    refine Nat.succ_le_succ (membersNesting_le_iff.2 fun entry hentry => ?_)
    have hfield := hmembers.mem_iff.1 hentry
    simp only [Subject.members, List.mem_cons, List.not_mem_nil, or_false] at hfield
    rcases hfield with rfl | rfl | rfl
    · exact nesting_le_of_optional? hinstallation hreadInstallation
    · exact nesting_le_of_optional? huser hreadUser
    · exact nesting_le_of_items? hevents hreadEvents

/-- Down to a depth, a subject is read back if it is nested no deeper. -/
theorem ofSpelling?_within (h : subject.Canonical) (hwritten : subject.WrittenAs json) (room : Nat) :
    ofSpelling? (json.within room) = if json.nesting ≤ room then some subject else none := by
  split
  · rename_i hroom
    rw [within_eq_spelling hroom, ofSpelling?_written h hwritten]
  · rename_i hroom
    exact Option.eq_none_iff_forall_ne_some.2 fun found hfound =>
      hroom (nesting_le_of_ofSpelling? hwritten hfound)

/-- What comes back of a subject from its text. -/
theorem ofText?_text (h : subject.Canonical) (hwritten : subject.WrittenAs json) :
    ofText? json.text = if json.nesting ≤ nestingLimit then some subject.reread else none := by
  rw [ofText?, Spelling.ofText?_text, Option.bind_eq_bind, Option.bind_some,
    ofSpelling?_within (canonical_reread h) hwritten.reread, nesting_reread]

end Subject

end Audience
