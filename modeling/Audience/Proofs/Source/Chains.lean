import Audience.Resolution

/-!
# Chains of sources

A source is resolved from the end of its chain to the root: it reads from what the source above it
resolves to. This holds of every chain, also of those that no document spells.

* **`Source.Link`**, **`Source.along`**: sources built on another one, link by link.
* **`Situation.record?_resolve`**: only a scope resolves to a record. From it,
  **`Situation.resolve_lastActivity`** and the like: what a source reads from the record above it.
* **`Record.field?_append`**: below a custom field that is missing there is none.
* **`Situation.resolve_absent_linked`**, **`Situation.resolve_absent_along`**: what is built on a source
  without a value has none.
* **`Situation.changedAt_sinceDate`**, **`Situation.changedAt_elapsedTime`**: the date and the age of a
  change last changed when the change was made.
* **`Situation.resolve_chains`**: the laws of resolution.
-/

namespace Audience

/-! ### Chains -/

namespace Source

/-- What can be asked below a source. -/
inductive Link
  | lastActivity
  | field (path : List String)
  | sinceDate
  | elapsedTime
  | location
  | locationDate

/-- The source one link below. -/
def linked (source : Source) : Link → Source
  | .lastActivity => lastActivity source
  | .field path => field source path
  | .sinceDate => sinceDate source
  | .elapsedTime => elapsedTime source
  | .location => location source
  | .locationDate => locationDate source

/-- The source some links below. -/
def along (source : Source) (links : List Link) : Source := links.foldl linked source

/-- A link to a field has a path. -/
def Link.HasPath : Link → Prop
  | .field path => path ≠ []
  | _ => True

/-- Every field in the chain has a path. -/
def HasPaths : Source → Prop
  | installation | user | event => True
  | field parent path => path ≠ [] ∧ parent.HasPaths
  | lastActivity parent | sinceDate parent | elapsedTime parent | location parent
  | locationDate parent => parent.HasPaths

theorem HasPaths.linked {source : Source} {link : Link} (h : source.HasPaths) (hlink : link.HasPath) :
    (source.linked link).HasPaths := by
  cases link with
  | field path => exact ⟨hlink, h⟩
  | _ => exact h

end Source

/-! ### Records -/

namespace Resolution

/-- The record of a scope. -/
def record? : Resolution → Option Record
  | scope record => some record
  | _ => none

/-- What is read from the record of a scope; nothing is read from anything but a scope. -/
def readRecord (above : Resolution) (read : Record → Resolution) : Resolution :=
  above.record?.elim absent read

theorem record?_ofRecord (record : Option Record) : (ofRecord record).record? = record := by
  cases record <;> rfl

theorem record?_ofInstant (instant : Option Instant) : (ofInstant instant).record? = none := by
  cases instant <;> rfl

end Resolution

namespace Situation

variable {situation : Situation} {source parent : Source} {path : List String}

theorem record?_fieldOf (record : Record) (path : List String) :
    (fieldOf record path).record? = none := by
  rw [fieldOf]
  split <;> rfl

theorem record?_locationOf (record : Record) : (locationOf record).record? = none := by
  rw [locationOf]
  split <;> rfl

/-- Only a scope resolves to a record, to its own. -/
theorem record?_resolve (situation : Situation) (source : Source) :
    (situation.resolve source).record? = situation.scope? source := by
  cases source with
  | installation | user | event => exact Resolution.record?_ofRecord _
  | lastActivity parent | locationDate parent => exact Resolution.record?_ofInstant _
  | field parent path =>
    rw [resolve, resolveField]
    dsimp only
    split
    · exact record?_fieldOf _ _
    · rfl
  | sinceDate parent | elapsedTime parent =>
    rw [resolve]
    split <;> rfl
  | location parent =>
    rw [resolve]
    split
    · exact record?_locationOf _
    · rfl

theorem scope?_of_not_root (h : source.isRoot = false) : situation.scope? source = none := by
  cases source with
  | installation | user | event => cases h
  | _ => rfl

theorem parent?_of_scope {record : Record} (h : situation.resolve source = .scope record) :
    source.parent? = none := by
  have hrecord := situation.record?_resolve source
  rw [h] at hrecord
  cases source with
  | installation | user | event => rfl
  | _ => cases hrecord

/-! ### What is read from the source above -/

theorem resolve_lastActivity : situation.resolve (.lastActivity parent) =
    (situation.resolve parent).readRecord fun record => .ofInstant record.lastActivityDate := by
  rw [resolve, Resolution.readRecord, record?_resolve]
  cases situation.scope? parent <;> rfl

theorem resolve_location :
    situation.resolve (.location parent) = (situation.resolve parent).readRecord locationOf := by
  rw [resolve, Resolution.readRecord, record?_resolve]
  cases situation.scope? parent <;> rfl

theorem resolve_locationDate : situation.resolve (.locationDate parent) =
    (situation.resolve parent).readRecord fun record => .ofInstant record.locationDate := by
  rw [resolve, Resolution.readRecord, record?_resolve]
  cases situation.scope? parent <;> rfl

/-- A field is read from the source at the start of its chain of fields. -/
theorem resolve_field : situation.resolve (.field parent path) =
    (situation.resolve (fieldChain parent path).1).readRecord fun record =>
      fieldOf record (fieldChain parent path).2 := by
  rw [resolve, resolveField, Resolution.readRecord, record?_resolve]
  dsimp only
  cases situation.scope? (fieldChain parent path).1 <;> rfl

theorem readRecord_of_not_root {read : Record → Resolution} (h : source.isRoot = false) :
    (situation.resolve source).readRecord read = .absent := by
  rw [Resolution.readRecord, record?_resolve, scope?_of_not_root h]
  rfl

/-! ### Chains of fields -/

theorem fieldChain_of_not_field (h : source.isField = false) :
    fieldChain source path = (source, path) := by
  cases source with
  | field parent front => cases h
  | _ => rfl

/-- A longer path leads further from the same start. -/
theorem fieldChain_append (source : Source) (path more : List String) :
    fieldChain source (path ++ more) =
      ((fieldChain source path).1, (fieldChain source path).2 ++ more) := by
  induction source generalizing path with
  | field parent front ih =>
    have hjoined := ih (front ++ path)
    rwa [List.append_assoc] at hjoined
  | _ => rfl

theorem fieldChain_ne_nil (h : path ≠ []) : (fieldChain source path).2 ≠ [] := by
  induction source generalizing path with
  | field parent front ih => exact ih (List.append_ne_nil_of_right_ne_nil front h)
  | _ => exact h

theorem resolve_field_of_not_hasFields (h : parent.hasFields = false) :
    situation.resolve (.field parent path) = .absent := by
  rw [Source.hasFields, Bool.or_eq_false_iff] at h
  rw [resolve_field, fieldChain_of_not_field h.2]
  exact readRecord_of_not_root h.1

end Situation

/-! ### Missing fields -/

namespace Record

variable {record : Record} {path : List String}

theorem follow?_append (value : Json) (path more : List String) :
    follow? value (path ++ more) = (follow? value path).bind fun inner => follow? inner more := by
  induction path generalizing value with
  | nil => rfl
  | cons segment rest ih =>
    rw [List.cons_append, follow?, follow?]
    cases value.member? segment with
    | none => rfl
    | some inner => exact ih inner

/-- Nothing but itself is found from `null`. -/
theorem follow?_null (path : List String) : ∀ value, follow? .null path = some value → value.isNull := by
  intro value h
  cases path with
  | nil =>
    cases h
    rfl
  | cons segment rest => cases h

/-- A field is missing where a field in front of it is, be it unknown, `null`, or below a value that
is no object. -/
theorem field?_append (hpath : path ≠ []) (h : record.field? path = none) (more : List String) :
    record.field? (path ++ more) = none := by
  cases path with
  | nil => exact absurd rfl hpath
  | cons first rest =>
    rw [List.cons_append]
    rw [field?] at h ⊢
    cases hproperty : Json.find? record.properties first with
    | none => rfl
    | some property =>
      rw [hproperty] at h
      change (follow? property (rest ++ more)).bind _ = none
      change (follow? property rest).bind _ = none at h
      rw [follow?_append]
      cases hvalue : follow? property rest with
      | none => rfl
      | some value =>
        rw [hvalue] at h
        cases value with
        | null =>
          change (follow? .null more).bind _ = none
          cases hinner : follow? .null more with
          | none => rfl
          | some inner => exact if_pos (follow?_null more inner hinner)
        | _ => cases h

end Record

namespace Situation

variable {situation : Situation} {source parent : Source} {path : List String}

theorem fieldOf_eq_absent_iff {record : Record} :
    fieldOf record path = .absent ↔ record.field? path = none := by
  rw [fieldOf]
  cases record.field? path with
  | none => exact iff_of_true rfl rfl
  | some value => exact iff_of_false nofun nofun

/-! ### What is built on a source without a value -/

/-- A field of a source without a value has none. Of the fields above, it does not matter which one is
missing. -/
theorem resolve_field_of_absent (hpaths : source.HasPaths) (h : situation.resolve source = .absent)
    (more : List String) : situation.resolve (.field source more) = .absent := by
  cases source with
  | installation | user | event =>
    rw [resolve_field, fieldChain_of_not_field rfl, h]
    rfl
  | field parent path =>
    obtain ⟨hpath, _⟩ := hpaths
    have hchain : fieldChain (.field parent path) more = fieldChain parent (path ++ more) := rfl
    rw [resolve_field, Resolution.readRecord] at h
    rw [resolve_field, hchain, fieldChain_append, Resolution.readRecord]
    dsimp only
    cases hrecord : (situation.resolve (fieldChain parent path).1).record? with
    | none => rfl
    | some record =>
      rw [hrecord] at h
      have hfield : record.field? (fieldChain parent path).2 = none := fieldOf_eq_absent_iff.1 h
      exact fieldOf_eq_absent_iff.2 (Record.field?_append (fieldChain_ne_nil hpath) hfield more)
  | _ => exact resolve_field_of_not_hasFields rfl

/-- A source right below one without a value has none. -/
theorem resolve_absent_linked (hpaths : source.HasPaths) (h : situation.resolve source = .absent)
    (link : Source.Link) : situation.resolve (source.linked link) = .absent := by
  cases link with
  | field path => exact resolve_field_of_absent hpaths h path
  | lastActivity =>
    rw [Source.linked, resolve_lastActivity, h]
    rfl
  | location =>
    rw [Source.linked, resolve_location, h]
    rfl
  | locationDate =>
    rw [Source.linked, resolve_locationDate, h]
    rfl
  | sinceDate | elapsedTime =>
    rw [Source.linked, resolve, h]
    rfl

/-- A source anywhere below one without a value has none. -/
theorem resolve_absent_along {links : List Source.Link} (hpaths : source.HasPaths)
    (h : situation.resolve source = .absent) (hlinks : ∀ link ∈ links, link.HasPath) :
    situation.resolve (source.along links) = .absent := by
  induction links generalizing source with
  | nil => exact h
  | cons link rest ih =>
    obtain ⟨hlink, hrest⟩ := List.forall_mem_cons.1 hlinks
    exact ih (hpaths.linked hlink) (resolve_absent_linked hpaths h link) hrest

/-! ### Changes of changes -/

/-- The date of a change last changed when the change was made. -/
theorem changedAt_sinceDate : (situation.resolve (.sinceDate source)).changedAt =
    (situation.resolve source).changedAt := by
  rw [resolve]
  cases (situation.resolve source).changedAt <;> rfl

/-- The age of a change last changed when the change was made. -/
theorem changedAt_elapsedTime : (situation.resolve (.elapsedTime source)).changedAt =
    (situation.resolve source).changedAt := by
  rw [resolve]
  cases (situation.resolve source).changedAt <;> rfl

/-! ### The laws -/

/-- Resolution of any chain of sources, for any subject, event and instant. Only a scope resolves to a
scope. What is built on a source without a value has none. Fields are those of scopes and of fields,
and activities and locations those of scopes. The date and the age of the change of a date or age of a
change are those of the change itself. -/
theorem resolve_chains (situation : Situation) (source : Source) (hpaths : source.HasPaths) :
    (∀ record, situation.resolve source = .scope record → source.parent? = none) ∧
    (situation.resolve source = .absent → ∀ links : List Source.Link,
      (∀ link ∈ links, link.HasPath) → situation.resolve (source.along links) = .absent) ∧
    (source.hasFields = false → ∀ path, situation.resolve (.field source path) = .absent) ∧
    (source.isRoot = false →
      situation.resolve (.lastActivity source) = .absent ∧
      situation.resolve (.location source) = .absent ∧
      situation.resolve (.locationDate source) = .absent) ∧
    ∀ change, (change = .sinceDate source ∨ change = .elapsedTime source) →
      situation.resolve (.sinceDate change) = situation.resolve (.sinceDate source) ∧
      situation.resolve (.elapsedTime change) = situation.resolve (.elapsedTime source) := by
  refine ⟨fun _ => parent?_of_scope, fun h _ => resolve_absent_along hpaths h,
    fun h _ => resolve_field_of_not_hasFields h, fun h => ⟨?_, ?_, ?_⟩, fun change h => ?_⟩
  · rw [resolve_lastActivity, readRecord_of_not_root h]
  · rw [resolve_location, readRecord_of_not_root h]
  · rw [resolve_locationDate, readRecord_of_not_root h]
  · have hchanged : (situation.resolve change).changedAt = (situation.resolve source).changedAt := by
      obtain rfl | rfl := h
      · exact changedAt_sinceDate
      · exact changedAt_elapsedTime
    constructor
    · rw [resolve, resolve, hchanged]
    · rw [resolve, resolve, hchanged]

/-- The city of a profile is unknown, and so is all that is built on it: a part of it, the date on which
that part changed, and how long ago that is. -/
theorem resolve_chains_of_null :
    let profile : Json := .object [("city", .null)]
    let subject : Subject := ⟨some (Record.empty.withProperty "profile" profile), none, []⟩
    let situation : Situation := .ofSubject subject 0
    let city : Source := .field (.field .installation ["profile"]) ["city"]
    city.HasPaths ∧ situation.resolve city = .absent ∧
      situation.resolve (city.along [.field ["zip", "code"], .sinceDate, .elapsedTime]) = .absent := by
  intro profile subject situation city
  have hpaths : city.HasPaths := ⟨nofun, nofun, trivial⟩
  have hcity : situation.resolve city = .absent := rfl
  obtain ⟨_, hbuilt, _⟩ := resolve_chains situation city hpaths
  refine ⟨hpaths, hcity, hbuilt hcity _ ?_⟩
  simp [Source.Link.HasPath]

end Situation

end Audience
