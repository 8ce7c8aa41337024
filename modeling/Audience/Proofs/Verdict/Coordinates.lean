import Audience.Proofs.Literal.Outcome
import Audience.Proofs.Subject.RoundTrip
import Audience.Proofs.Verdict.Field

/-!
# Coordinates as a location and as a custom field

A record takes its location from its document whatever the numbers are, while a custom field with a
latitude and a longitude is a location only if they are in range. Numbers in range are judged alike;
others may be inside an area as a location, but never as a field.

* **`Record.ReadWithLocation`**, **`Record.ReadWithProperty`**: records that were read from documents
  with coordinates in them.
* **`Criterion.meaning_geoInside`**, **`Criterion.meaning_fieldInside`**: what is asked of them.
* **`Criterion.coordinates_inside`**: how the verdicts on them are related.
-/

namespace Audience

open Json (Entry Spelling)

/-- A latitude and a longitude in a document. -/
def coordinates (lat lon : Json.Number) : Json := .object [("lat", .number lat), ("lon", .number lon)]

variable {lat lon : Json.Number}

theorem canonical_coordinates (lat lon : Json.Number) : (coordinates lat lon).Canonical := by
  refine ⟨List.pairwise_cons.2 ⟨fun other hother => ?_, List.pairwise_singleton _ _⟩,
    trivial, trivial, trivial⟩
  rw [List.mem_singleton.1 hother]
  show "lat" < "lon"
  decide

/-! ### What is read from documents -/

namespace Record

variable {members : List (String × Json)} {record : Record}

/-- What the properties and the location of a record were read from. -/
theorem entries_of_read (h : ofJson? (.object members) = some record) : ∃ properties location,
    Spelling.entryOf? (Json.memberSpellings members) "properties" = some properties ∧
      properties.orElse? [] (·.members? Spelling.value?) = some record.properties ∧
      Spelling.entryOf? (Json.memberSpellings members) "location" = some location ∧
      location.optional? Geo.Location.ofSpelling? = some record.location := by
  obtain ⟨properties, _, _, _, _, location, _, _, hentries, hproperties, _, hlocation⟩ :=
    exists_entries h
  have hnamed := Json.entryOf?_of_entries? hentries
  simp only [fieldNames, List.map_cons, List.map_nil, List.cons.injEq] at hnamed
  obtain ⟨hfirst, _, _, _, _, hsixth, _⟩ := hnamed
  exact ⟨properties, location, hfirst, hproperties, hsixth, hlocation⟩

/-- The record was read from a document that has the coordinates for a location. -/
def ReadWithLocation (record : Record) (lat lon : Json.Number) : Prop :=
  ∃ members, ofJson? (.object members) = some record ∧ ("location", coordinates lat lon) ∈ members

/-- The record was read from a document that has a property with the value. -/
def ReadWithProperty (record : Record) (key : String) (value : Json) : Prop :=
  ∃ members properties, ofJson? (.object members) = some record ∧
    ("properties", .object properties) ∈ members ∧ (Json.object properties).Canonical ∧
      (key, value) ∈ properties

/-- The location is the coordinates of the document, in range or not. -/
theorem ReadWithLocation.location_eq (h : record.ReadWithLocation lat lon) :
    record.location = some ⟨lat.toBinary64, lon.toBinary64⟩ := by
  obtain ⟨members, hrecord, hmem⟩ := h
  obtain ⟨_, _, _, _, hentry, hread⟩ := entries_of_read hrecord
  rw [Json.entryOf?_of_mem hentry hmem] at hread
  exact (Option.some.inj hread).symm

/-- The field of a property is the value in the document. -/
theorem ReadWithProperty.field_eq {key : String} {value : Json}
    (h : record.ReadWithProperty key value) (hnull : value.isNull = false) :
    record.field? [key] = some value := by
  obtain ⟨members, properties, hrecord, hmem, hcanonical, hproperty⟩ := h
  obtain ⟨_, _, hentry, hread, _⟩ := entries_of_read hrecord
  rw [Json.entryOf?_of_mem hentry hmem, Entry.orElse?, Json.members?_values hcanonical] at hread
  have hfind := Json.find?_of_mem hcanonical.1.nodup hproperty
  rw [field?, ← Option.some.inj hread, hfind]
  show (if value.isNull then none else some value) = _
  rw [hnull]
  rfl

/-- Whatever the coordinates are, a record is read that has them for a location. -/
theorem readWithLocation_withLocation (lat lon : Json.Number) :
    (empty.withLocation ⟨lat.toBinary64, lon.toBinary64⟩ none).ReadWithLocation lat lon :=
  ⟨[("location", coordinates lat lon)], rfl, List.mem_cons_self⟩

/-- Whatever the coordinates are, a record is read that has them for a property. -/
theorem readWithProperty_withProperty (key : String) (lat lon : Json.Number) :
    (empty.withProperty key (coordinates lat lon)).ReadWithProperty key (coordinates lat lon) := by
  have hcanonical : (Json.object [(key, coordinates lat lon)]).Canonical :=
    ⟨List.pairwise_singleton _ _, canonical_coordinates lat lon, trivial⟩
  refine ⟨[("properties", .object [(key, coordinates lat lon)])], _, ?_, List.mem_cons_self,
    hcanonical, List.mem_cons_self⟩
  show ((Json.object [(key, coordinates lat lon)]).spelling.members? Spelling.value?).bind
    (fun properties => some { empty with properties }) = _
  rw [Json.members?_values hcanonical]
  rfl

end Record

/-! ### What is asked -/

namespace Criterion

/-- A document that asks whether a location is inside an area. -/
def geoInside (area : Json) : Json :=
  .object [("geo", .object [("location", .object [(Keyword.inside.key, area)])])]

variable {source : Source} {p : String} {area : Json}

theorem meaning_geoInside (howner : source.isOwner = true) (area : Json) :
    meaning? source (geoInside area) =
      (Semantics.question? (.location source) .inside area).map (.test () (.location source)) := by
  have hkey : Keyword.ofKey? "geo" = some .geo := Keyword.ofKey?_key .geo
  rw [geoInside, meaning_keyword hkey]
  show (if source.isOwner then Semantics.geo? meaning? source _ else none) = _
  rw [howner]
  show (List.mapM (Semantics.geoMember? meaning? source) _).map (allOf ()) = _
  rw [List.mapM_cons, List.mapM_nil]
  show ((meaning? (.location source) _).bind _).map _ = _
  rw [meaning_question rfl rfl]
  cases Semantics.question? (.location source) .inside area <;> rfl

/-- A field is asked the same as a location. -/
theorem meaning_fieldInside (howner : source.isOwner = true)
    (hp : Semantics.fieldPath? p = some [p]) (area : Json) :
    meaning? source (fieldQuestion p .inside area) =
      (Semantics.question? (.location source) .inside area).map (.test () (.field source [p])) := by
  have hfields : source.hasFields = true := by
    cases source with
    | installation | user => rfl
    | _ => cases howner
  have hliteral : Semantics.literal? (.field source [p]) = Semantics.literal? (.location source) :=
    Semantics.literal?_congr rfl rfl
  rw [fieldQuestion, meaning_below_field hfields hp, meaning_question rfl rfl]
  unfold Semantics.question?
  rw [hliteral]

/-! ### Verdicts -/

section

variable {situation : Situation} {record : Record}

theorem testHolds_location {area : Geo.Area} {location : Geo.Location}
    (hscope : situation.scope? source = some record) (hlocation : record.location = some location) :
    testHolds situation (.location source) (.inside area) = area.contains location := by
  rw [testHolds, Situation.resolve, hscope]
  show (Situation.locationOf record).value?.any _ = _
  rw [Situation.locationOf, hlocation]
  rfl

/-- Coordinates in a field are inside an area if they are in range and their location is inside. -/
theorem testHolds_coordinates {area : Geo.Area} (howner : source.isOwner = true)
    (hscope : situation.scope? source = some record)
    (hfield : record.field? [p] = some (coordinates lat lon)) :
    testHolds situation (.field source [p]) (.inside area) =
      (Geo.Location.within 90 lat.toBinary64 && Geo.Location.within 180 lon.toBinary64 &&
        area.contains ⟨lat.toBinary64, lon.toBinary64⟩) := by
  have hvalue : situation.fieldValue? source [p] = some (coordinates lat lon) := by
    have hchain : Situation.fieldChain source [p] = (source, [p]) := by
      cases source with
      | installation | user => rfl
      | _ => cases howner
    rw [Situation.fieldValue?, hchain]
    show (situation.scope? source).bind _ = _
    rw [hscope, Option.bind_some, hfield]
  have hlocation : (Datum.json (coordinates lat lon)).location? =
      (Geo.Location.check lat.toBinary64 lon.toBinary64).toOption := rfl
  rw [testHolds_field, hvalue, Option.any_some]
  show (Datum.json (coordinates lat lon)).location?.any area.contains = _
  rw [hlocation, Geo.Location.check]
  cases Geo.Location.within 90 lat.toBinary64 with
  | false => rfl
  | true => cases Geo.Location.within 180 lon.toBinary64 <;> rfl

end

/-- The same area is accepted for a location and for a custom field. Coordinates in a field are inside it
exactly if they are in range and are inside as a location, so that the two verdicts are the same for
coordinates in range. -/
theorem coordinates_inside (place : Place) (howner : place.source.isOwner = true)
    (hp : Semantics.fieldPath? p = some [p]) (area : Json) (hgeo : place.InLimits (geoInside area))
    (hfield : place.InLimits (fieldQuestion p .inside area)) :
    (Accepts (read (geoInside area) place) ↔ Accepts (read (fieldQuestion p .inside area) place)) ∧
    ∀ c c', read (geoInside area) place = .ok c →
      read (fieldQuestion p .inside area) place = .ok c' →
      ∀ lat lon (record record' : Record), record.ReadWithLocation lat lon →
        record'.ReadWithProperty p (coordinates lat lon) →
        ∀ situation situation' : Situation, situation.scope? place.source = some record →
          situation'.scope? place.source = some record' →
          c'.holds situation' =
            (Geo.Location.within 90 lat.toBinary64 && Geo.Location.within 180 lon.toBinary64 &&
              c.holds situation) := by
  have hmeaning := meaning_geoInside howner area
  have hmeaning' := meaning_fieldInside howner hp area
  refine ⟨?_, ?_⟩
  · rw [accepts_read_iff hgeo, accepts_read_iff hfield, hmeaning, hmeaning', Option.isSome_map,
      Option.isSome_map]
  · intro c c' hc hc' lat lon record record' hlocation hproperty situation situation' hscope hscope'
    obtain ⟨tree, htree, hholds⟩ := exists_meaning hgeo hc
    obtain ⟨tree', htree', hholds'⟩ := exists_meaning hfield hc'
    rw [hmeaning] at htree
    obtain ⟨question, hquestion, rfl⟩ := Option.map_eq_some_iff.1 htree
    rw [hmeaning', hquestion] at htree'
    cases htree'
    obtain ⟨inside, _, rfl⟩ := Option.map_eq_some_iff.1 hquestion
    rw [hholds, hholds', holds, holds, testHolds_location hscope hlocation.location_eq,
      testHolds_coordinates howner hscope' (hproperty.field_eq rfl)]

/-- A box in a document, with edges at whole degrees. -/
def boxArea (top right bottom left : Int) : Json :=
  .object [("geobox", .object [("bottom", .ofInt bottom), ("left", .ofInt left),
    ("right", .ofInt right), ("top", .ofInt top)])]

/-- Coordinates in range, and a box around them. -/
theorem coordinates_inside_in_range :
    ∃ c c' record record',
      read (geoInside (boxArea 60 20 40 0)) (.root .standard) = .ok c ∧
      read (fieldQuestion "p" .inside (boxArea 60 20 40 0)) (.root .standard) = .ok c' ∧
      record.ReadWithLocation (.integer 52 (by decide)) (.integer 13 (by decide)) ∧
      record'.ReadWithProperty "p"
        (coordinates (.integer 52 (by decide)) (.integer 13 (by decide))) ∧
      c'.holds (.ofSubject ⟨some record', none, []⟩ 0) =
        c.holds (.ofSubject ⟨some record, none, []⟩ 0) := by
  have hpath : Semantics.fieldPath? "p" = some ["p"] := by decide +kernel
  obtain ⟨haccepts, hverdicts⟩ := coordinates_inside (.root .standard) rfl hpath
    (boxArea 60 20 40 0) (.room (by unfold Place.HasRoom; decide +kernel))
    (.room (by unfold Place.HasRoom; decide +kernel))
  have hgeo : Accepts (read (geoInside (boxArea 60 20 40 0)) (.root .standard)) :=
    accepts_of_isOk (by decide +kernel)
  obtain ⟨c', hc'⟩ := haccepts.1 hgeo
  obtain ⟨c, hc⟩ := hgeo
  have hlocation := Record.readWithLocation_withLocation (.integer 52 (by decide))
    (.integer 13 (by decide))
  have hproperty := Record.readWithProperty_withProperty "p" (.integer 52 (by decide))
    (.integer 13 (by decide))
  refine ⟨c, c', _, _, hc, hc', hlocation, hproperty, ?_⟩
  have hrange : (Geo.Location.within 90 (.ofInt 52) && Geo.Location.within 180 (.ofInt 13)) = true := by
    decide +kernel
  rw [hverdicts c c' hc hc' _ _ _ _ hlocation hproperty (.ofSubject ⟨some _, none, []⟩ 0)
    (.ofSubject ⟨some _, none, []⟩ 0) rfl rfl]
  exact (congrArg (· && _) hrange).trans (Bool.true_and _)

/-- A longitude past the antimeridian is inside a box across it as a location, but not as a field. -/
theorem out_of_range_inside_as_location :
    ∃ c c' record record',
      read (geoInside (boxArea 10 (-170) (-10) 170)) (.root .standard) = .ok c ∧
      read (fieldQuestion "p" .inside (boxArea 10 (-170) (-10) 170)) (.root .standard) = .ok c' ∧
      record.ReadWithLocation (.integer 0 (by decide)) (.integer 190 (by decide)) ∧
      record'.ReadWithProperty "p"
        (coordinates (.integer 0 (by decide)) (.integer 190 (by decide))) ∧
      c.holds (.ofSubject ⟨some record, none, []⟩ 0) = true ∧
      c'.holds (.ofSubject ⟨some record', none, []⟩ 0) = false := by
  have hinside : (read (geoInside (boxArea 10 (-170) (-10) 170)) (.root .standard)).toOption.map
      (holds (.ofSubject ⟨some (Record.empty.withLocation ⟨.ofInt 0, .ofInt 190⟩ none),
        none, []⟩ 0)) = some true := by decide +kernel
  have houtside : (read (fieldQuestion "p" .inside (boxArea 10 (-170) (-10) 170))
      (.root .standard)).toOption.map
        (holds (.ofSubject ⟨some (Record.empty.withProperty "p"
          (coordinates (.integer 0 (by decide)) (.integer 190 (by decide)))), none, []⟩ 0)) =
        some false := by decide +kernel
  obtain ⟨c, hc, hinside⟩ := Option.map_eq_some_iff.1 hinside
  obtain ⟨c', hc', houtside⟩ := Option.map_eq_some_iff.1 houtside
  exact ⟨c, c', _, _, toOption_eq_some_iff.1 hc, toOption_eq_some_iff.1 hc',
    Record.readWithLocation_withLocation _ _, Record.readWithProperty_withProperty _ _ _,
    hinside, houtside⟩

end Criterion

end Audience
