import Audience.Proofs.Criterion.Semantics
import Audience.Proofs.Source.Joined
import Audience.Proofs.Text.Segments

/-!
# Fields below fields

A field below a field is the field under the joined path. The sources that are in force below the two
documents are not the same, but they are once they are joined. So are then those of all trees that a
value spells below them, by induction on the height of the value.

* **`Semantics.Joins`**: a value spells the same under sources that are the same once joined.
  **`Criterion.meaning_joins`**: every value does.
* **`Criterion.dotted_fields`**: nested fields and a dotted one are accepted together, with trees of
  one size and with one verdict.
-/

namespace Audience

variable {s t : Source}

/-! ### Results that are the same once something is done to them -/

section

variable {α β α' β' : Type} {into : α → α'} {into' : β → β'} {x y : Option α} {f g : α → Option β}

theorem bind_same (h : x.map into = y.map into)
    (next : ∀ a b, into a = into b → (f a).map into' = (g b).map into') :
    (x.bind f).map into' = (y.bind g).map into' := by
  cases x with
  | none =>
    cases y with
    | none => rfl
    | some b => cases h
  | some a =>
    cases y with
    | none => cases h
    | some b => exact next a b (Option.some.inj h)

theorem bind_same_of_eq (x : Option α)
    (next : ∀ a, (f a).map into' = (g a).map into') :
    (x.bind f).map into' = (x.bind g).map into' := by
  cases x with
  | none => rfl
  | some a => exact next a

theorem map_same_of_eq {f g : α → β} (x : Option α) (next : ∀ a, into' (f a) = into' (g a)) :
    (x.map f).map into' = (x.map g).map into' := by
  cases x with
  | none => rfl
  | some a => exact congrArg some (next a)

theorem map_same {f g : α → β} (h : x.map into = y.map into)
    (next : ∀ a b, into a = into b → into' (f a) = into' (g b)) :
    (x.map f).map into' = (y.map g).map into' := by
  cases x with
  | none =>
    cases y with
    | none => rfl
    | some b => cases h
  | some a =>
    cases y with
    | none => cases h
    | some b => exact congrArg some (next a b (Option.some.inj h))

theorem foldlM_same {items : List β} {f g : α → β → Option α} {a b : α} (h : into a = into b)
    (next : ∀ item ∈ items, ∀ a b, into a = into b → (f a item).map into = (g b item).map into) :
    (items.foldlM f a).map into = (items.foldlM g b).map into := by
  induction items generalizing a b with
  | nil => exact congrArg some h
  | cons item rest ih =>
    rw [List.foldlM_cons, List.foldlM_cons]
    refine bind_same (next item List.mem_cons_self a b h) fun a' b' hab => ?_
    exact ih hab fun other hother => next other (List.mem_cons_of_mem _ hother)

theorem mapM_same {items : List α} {f g : α → Option β}
    (h : ∀ item ∈ items, (f item).map into' = (g item).map into') :
    (items.mapM f).map (List.map into') = (items.mapM g).map (List.map into') := by
  induction items with
  | nil => rfl
  | cons item rest ih =>
    rw [List.mapM_cons, List.mapM_cons]
    refine bind_same (h item List.mem_cons_self) fun a b hab => ?_
    refine bind_same (ih fun other hother => h other (List.mem_cons_of_mem _ hother)) ?_
    intro as bs hall
    show some (into' a :: as.map into') = some (into' b :: bs.map into')
    rw [hab, hall]

end

/-! ### Literals -/

namespace Literal

theorem circleOf_withSource (place : Place) (source : Source) (body : Json) :
    circleOf (place.withSource source) body = circleOf place body := by
  rw [circleOf, circleOf]
  cases body.member? "center" with
  | none => rfl
  | some center =>
    rw [Place.key, Place.key, Place.enter, Place.enter]
    show (if place.depth < place.limits.maxDepth then _ else _) >>= _ = _
    split <;> rfl

/-- A typed value is read in the same way under every source. -/
theorem ofTyped_withSource (place : Place) (source : Source) (type : String) (body : Json) :
    ofTyped (place.withSource source) type body = ofTyped place type body := by
  unfold ofTyped
  rw [circleOf_withSource]
  rfl

/-- An object spells the same literal under every source. -/
theorem ofJson_object_withSource (place : Place) (source : Source) (members : List (String × Json)) :
    ofJson (place.withSource source) (.object members) = ofJson place (.object members) := by
  match members with
  | [] => rfl
  | [(type, body)] =>
    show (place.withSource source).key type >>= _ = place.key type >>= _
    rw [Place.key, Place.key, Place.enter, Place.enter]
    show (if place.depth < place.limits.maxDepth then _ else _) >>= _ = _
    split
    · exact ofTyped_withSource { place with trail := .key type :: place.trail } source type body
    · rfl
  | _ :: _ :: _ => rfl

/-- A literal depends on its source for whether that holds instants or lengths of time. -/
theorem ofJson_withSource {place : Place} {source : Source}
    (hdate : source.isDate = place.source.isDate)
    (hduration : source.isDuration = place.source.isDuration) (json : Json) :
    ofJson (place.withSource source) json = ofJson place json := by
  cases json with
  | null | bool | array => rfl
  | number value =>
    show ofNumber _ _ = ofNumber _ _
    rw [ofNumber, ofNumber]
    show (if source.isDate then _ else if source.isDuration then _ else _) = _
    rw [hdate, hduration]
    rfl
  | string value =>
    show ofText _ _ = ofText _ _
    rw [ofText, ofText]
    show (if source.isDate then _ else if source.isDuration then _ else _) = _
    rw [hdate, hduration]
    rfl
  | object members => exact ofJson_object_withSource place source members

end Literal

namespace Semantics

/-- What a value spells depends on its source for whether that holds instants or lengths of time. -/
theorem literal?_congr (hdate : s.isDate = t.isDate) (hduration : s.isDuration = t.isDuration) :
    literal? s = literal? t := by
  funext json
  rw [literal?, literal?]
  congr 1
  exact (Literal.ofJson_withSource hdate.symm hduration.symm json).symm

theorem literal?_joined (h : s.joined = t.joined) : literal? s = literal? t := by
  refine literal?_congr ?_ ?_
  · rw [← s.isDate_joined, h, t.isDate_joined]
  · rw [← s.isDuration_joined, h, t.isDuration_joined]

/-! ### Sources -/

theorem fieldBelow?_same (h : s.joined = t.joined) (segments : List String) :
    (fieldBelow? s segments).map Source.joined = (fieldBelow? t segments).map Source.joined := by
  have hfields : s.hasFields = t.hasFields := by
    rw [← s.hasFields_joined, h, t.hasFields_joined]
  rw [fieldBelow?, fieldBelow?, hfields]
  split
  · show some (s.joined.extend segments) = some (t.joined.extend segments)
    rw [h]
  · rfl

theorem sourceBelow?_same (h : s.joined = t.joined) (segments : List String) :
    (sourceBelow? s segments).map Source.joined = (sourceBelow? t segments).map Source.joined := by
  have howner : s.isOwner = t.isOwner := by
    rw [← s.isOwner_joined, h, t.isOwner_joined]
  cases segments with
  | nil => exact congrArg some h
  | cons first rest =>
    unfold sourceBelow?
    dsimp only
    split
    · rw [howner]
      split
      · exact congrArg (fun parent => some (Source.lastActivity parent)) h
      · rfl
    · exact fieldBelow?_same h _

theorem source?_same (h : s.joined = t.joined) (path : String) :
    (source? s path).map Source.joined = (source? t path).map Source.joined := by
  refine bind_same_of_eq _ fun segments => ?_
  unfold sourceOf?
  split
  · rfl
  · rfl
  · exact sourceBelow?_same h _

theorem besideSource?_same (h : s.joined = t.joined) (members : List (String × Json)) :
    (besideSource? s members).map Source.joined = (besideSource? t members).map Source.joined := by
  rw [besideSource?, besideSource?]
  split
  · exact congrArg some h
  · refine bind_same_of_eq _ fun path => ?_
    exact source?_same h _

theorem geoSource?_same (h : s.joined = t.joined) (key : String) :
    (geoSource? s key).map Source.joined = (geoSource? t key).map Source.joined := by
  rw [geoSource?, geoSource?]
  split
  · exact congrArg (fun scope => some (Source.location scope)) h
  split
  · exact congrArg (fun scope => some (Source.locationDate scope)) h
  · rfl

/-! ### One level -/

/-- A value spells the same trees under sources that are the same once joined, but for the sources in
the trees, which are the same once joined. -/
def Joins (below : Semantics) (json : Json) : Prop :=
  ∀ s t : Source, s.joined = t.joined →
    (below s json).map Criterion.joined = (below t json).map Criterion.joined

variable {below : Semantics} {value : Json} {members : List (String × Json)}

theorem question?_joined (h : s.joined = t.joined) (keyword : Keyword) (value : Json) :
    question? s keyword value = question? t keyword value := by
  unfold question? literals?
  rw [literal?_joined h]

theorem criteria?_same (hbelow : ∀ inner, inner.height < value.height → below.Joins inner)
    (h : s.joined = t.joined) :
    (below.criteria? s value).map (List.map Criterion.joined) =
      (below.criteria? t value).map (List.map Criterion.joined) := by
  cases value with
  | array values =>
    exact mapM_same fun item hitem => hbelow item (Json.height_lt_of_item hitem) s t h
  | null | bool | number | string | object => rfl

theorem given?_same {value : Option Json} (hbelow : ∀ inner ∈ value, below.Joins inner)
    (h : s.joined = t.joined) :
    (below.given? s value).map (Option.map Criterion.joined) =
      (below.given? t value).map (Option.map Criterion.joined) := by
  cases value with
  | none => rfl
  | some inner => exact map_same (hbelow inner rfl s t h) fun _ _ => congrArg some

theorem presence?_same {since elapsed : Option Json}
    (hsince : ∀ inner ∈ since, below.Joins inner) (helapsed : ∀ inner ∈ elapsed, below.Joins inner)
    (h : s.joined = t.joined) (present : Bool) :
    (below.presence? s present since elapsed).map Criterion.joined =
      (below.presence? t present since elapsed).map Criterion.joined := by
  refine bind_same (given?_same hsince (congrArg Source.sinceDate h)) fun c d hcd => ?_
  refine map_same (given?_same helapsed (congrArg Source.elapsedTime h)) fun c' d' hcd' => ?_
  simp only [Criterion.joined, Criterion.joinedOf_eq_map, h, hcd, hcd']

/-- What members below `presence` have given, with the sources joined. -/
def PresenceParts.joined (parts : PresenceParts) : PresenceParts :=
  ⟨parts.present, parts.sinceDate.map Criterion.joined, parts.elapsedTime.map Criterion.joined⟩

theorem presenceMember?_same {entry : String × Json} {parts parts' : PresenceParts}
    (hbelow : below.Joins entry.2) (h : s.joined = t.joined) (hparts : parts.joined = parts'.joined) :
    (below.presenceMember? s parts entry).map PresenceParts.joined =
      (below.presenceMember? t parts' entry).map PresenceParts.joined := by
  obtain ⟨present, sinceDate, elapsedTime⟩ := parts
  obtain ⟨present', sinceDate', elapsedTime'⟩ := parts'
  obtain ⟨hpresent, hsince, helapsed⟩ := PresenceParts.mk.inj hparts
  simp only at hpresent hsince helapsed
  rw [presenceMember?, presenceMember?]
  split
  · cases entry.2 with
    | bool value => simp [PresenceParts.joined, hsince, helapsed]
    | null | number | string | array | object => rfl
  split
  · refine map_same (hbelow _ _ (congrArg Source.sinceDate h)) fun c d hcd => ?_
    simp [PresenceParts.joined, hpresent, helapsed, hcd]
  split
  · refine map_same (hbelow _ _ (congrArg Source.elapsedTime h)) fun c d hcd => ?_
    simp [PresenceParts.joined, hpresent, hsince, hcd]
  · rfl

theorem presenceWithin?_same (hbelow : ∀ entry ∈ members, below.Joins entry.2)
    (h : s.joined = t.joined) :
    (below.presenceWithin? s members).map Criterion.joined =
      (below.presenceWithin? t members).map Criterion.joined := by
  have hfold : (members.foldlM (below.presenceMember? s) ⟨none, none, none⟩).map
      PresenceParts.joined =
        (members.foldlM (below.presenceMember? t) ⟨none, none, none⟩).map PresenceParts.joined := by
    refine foldlM_same rfl fun entry hentry parts parts' hparts => ?_
    exact presenceMember?_same (hbelow entry hentry) h hparts
  refine bind_same hfold fun parts parts' hparts => ?_
  obtain ⟨hpresent, hsince, helapsed⟩ := PresenceParts.mk.inj hparts
  rw [hpresent]
  refine map_same_of_eq _ fun present => ?_
  simp only [Criterion.joined, Criterion.joinedOf_eq_map, h, hsince, helapsed]

theorem geo?_same (hbelow : ∀ inner, inner.height < value.height → below.Joins inner)
    (h : s.joined = t.joined) :
    (below.geo? s value).map Criterion.joined = (below.geo? t value).map Criterion.joined := by
  match value with
  | .object (first :: rest) =>
    have hmembers : ((first :: rest).mapM (below.geoMember? s)).map (List.map Criterion.joined) =
        ((first :: rest).mapM (below.geoMember? t)).map (List.map Criterion.joined) := by
      refine mapM_same fun entry hentry => ?_
      refine bind_same (geoSource?_same h _) fun source source' hsource => ?_
      exact hbelow entry.2 (Json.height_lt_of_member hentry) source source' hsource
    refine map_same hmembers fun parts parts' hparts => ?_
    rw [Criterion.joined_allOf, Criterion.joined_allOf, hparts]
  | .object [] | .null | .bool _ | .number _ | .string _ | .array _ => rfl

theorem keyworded?_same (hmembers : ∀ entry ∈ members, below.Joins entry.2)
    (hvalue : below.Joins value) (hbelow : ∀ inner, inner.height < value.height → below.Joins inner)
    (h : s.joined = t.joined) (keyword : Keyword) :
    (below.keyworded? s members keyword value).map Criterion.joined =
      (below.keyworded? t members keyword value).map Criterion.joined := by
  have hroot : s.isRoot = t.isRoot := by rw [← s.isRoot_joined, h, t.isRoot_joined]
  have howner : s.isOwner = t.isOwner := by rw [← s.isOwner_joined, h, t.isOwner_joined]
  cases keyword with
  | field path =>
    refine bind_same_of_eq _ fun segments => ?_
    exact bind_same (fieldBelow?_same h _) fun field field' hfield => hvalue _ _ hfield
  | and =>
    refine map_same (criteria?_same hbelow h) fun parts parts' hparts => ?_
    rw [Criterion.joined, Criterion.joined, Criterion.joinedAll_eq_map,
      Criterion.joinedAll_eq_map, hparts]
  | or =>
    refine map_same (criteria?_same hbelow h) fun parts parts' hparts => ?_
    rw [Criterion.joined, Criterion.joined, Criterion.joinedAll_eq_map,
      Criterion.joinedAll_eq_map, hparts]
  | not => exact map_same (hvalue s t h) fun c d hcd => congrArg (Criterion.not ()) hcd
  | installation | user | event =>
    rw [keyworded?, keyworded?, hroot]
  | lastActivity =>
    rw [keyworded?, keyworded?, howner]
    split
    · exact hvalue _ _ (congrArg Source.lastActivity h)
    · rfl
  | geo =>
    rw [keyworded?, keyworded?, howner]
    split
    · exact geo?_same hbelow h
    · rfl
  | subscription =>
    rw [keyworded?, keyworded?, howner]
    split
    · refine map_same_of_eq _ fun status => ?_
      rw [Criterion.joined, Criterion.joined, h]
    · rfl
  | presence =>
    cases value with
    | bool present =>
      refine bind_same (besideSource?_same h members) fun about about' habout => ?_
      refine presence?_same ?_ ?_ habout present
      · exact fun inner hinner => hmembers (_, inner) (Json.mem_of_find? hinner)
      · exact fun inner hinner => hmembers (_, inner) (Json.mem_of_find? hinner)
    | object inner =>
      refine presenceWithin?_same (fun entry hentry => ?_) h
      exact hbelow entry.2 (Json.height_lt_of_member hentry)
    | null | number | string | array => rfl
  | order | equal | any | all | startsWith | inside =>
    rw [keyworded?, keyworded?, hroot, question?_joined h]
    split
    · rfl
    · refine map_same_of_eq _ fun question => ?_
      rw [Criterion.joined, Criterion.joined, h]

theorem parts?_same (hbelow : ∀ inner, inner.height < (Json.object members).height →
      below.Joins inner) (h : s.joined = t.joined) :
    ∀ rest : List (String × Json), (∀ entry ∈ rest, entry ∈ members) →
      (parts? below s members rest).map (List.map Criterion.joined) =
        (parts? below t members rest).map (List.map Criterion.joined) := by
  intro rest
  induction rest with
  | nil =>
    intro _
    rfl
  | cons entry rest ih =>
    intro hrest
    obtain ⟨key, value⟩ := entry
    have hothers := ih fun other hother => hrest other (List.mem_cons_of_mem _ hother)
    have hlt : value.height < (Json.object members).height :=
      Json.height_lt_of_member (hrest (key, value) List.mem_cons_self)
    rw [parts?, parts?]
    split
    · split
      · exact hothers
      · rfl
    · have hfirst : ((Keyword.ofKey? key).bind fun keyword =>
          keyworded? below s members keyword value).map Criterion.joined =
          ((Keyword.ofKey? key).bind fun keyword =>
            keyworded? below t members keyword value).map Criterion.joined := by
        refine bind_same_of_eq _ fun keyword => ?_
        refine keyworded?_same ?_ (hbelow value hlt) ?_ h keyword
        · exact fun entry hentry => hbelow entry.2 (Json.height_lt_of_member hentry)
        · exact fun inner hinner => hbelow inner (Nat.lt_trans hinner hlt)
      refine bind_same hfirst fun first first' hsame => ?_
      refine map_same hothers fun others others' heq => ?_
      rw [List.map_cons, List.map_cons, hsame, heq]

theorem level_joins {json : Json} (hbelow : ∀ inner, inner.height < json.height → below.Joins inner) :
    (level below).Joins json := by
  intro s t h
  match json with
  | .object (first :: rest) =>
    refine map_same (parts?_same hbelow h _ fun _ hentry => hentry) fun parts parts' hparts => ?_
    rw [Criterion.joined_allOf, Criterion.joined_allOf, hparts]
  | .object [] | .null | .bool _ | .number _ | .string _ | .array _ => rfl

end Semantics

/-! ### All levels -/

namespace Criterion

/-- Every value spells the same under sources that are the same once joined. -/
theorem meaning_joins (json : Json) : Semantics.Joins meaning? json := by
  induction hheight : json.height using Nat.strongRecOn generalizing json with
  | _ height ih =>
    intro s t h
    rw [meaning_eq_level, meaning_eq_level]
    refine Semantics.level_joins (fun inner hinner => ?_) s t h
    rw [hheight] at hinner
    exact ih _ hinner inner rfl

/-! ### Nested and dotted fields -/

/-- A document about a field below a field. -/
def nestedFields (outer inner : String) (document : Json) : Json :=
  .object [("." ++ outer, .object [("." ++ inner, document)])]

/-- A document about the field under the joined path. -/
def dottedFields (outer inner : String) (document : Json) : Json :=
  .object [("." ++ (outer ++ "." ++ inner), document)]

/-- A document under the key of a field is about that field, if the path and the source in force
allow it. -/
theorem meaning_field (source : Source) (path : String) (document : Json) :
    meaning? source (.object [("." ++ path, document)]) =
      (Semantics.fieldPath? path).bind fun segments =>
        (Semantics.fieldBelow? source segments).bind fun field => meaning? field document :=
  meaning_keyword (Keyword.ofKey?_key (.field path)) source document

theorem fieldPath?_joined (outer inner : String) :
    Semantics.fieldPath? (outer ++ "." ++ inner) =
      (Semantics.fieldPath? outer).bind fun front =>
        (Semantics.fieldPath? inner).map (front ++ ·) := by
  have hsegments : Text.segments '.' (outer ++ "." ++ inner) =
      Text.segments '.' outer ++ Text.segments '.' inner := Text.segments_joined outer inner
  rw [Semantics.fieldPath?, Semantics.fieldPath?, Semantics.fieldPath?, hsegments,
    List.any_append]
  cases (Text.segments '.' outer).any String.isEmpty with
  | true => rfl
  | false => cases (Text.segments '.' inner).any String.isEmpty <;> rfl

/-- The sources of the two documents are not the same, but they are once they are joined. -/
theorem meaning_nestedFields (source : Source) (outer inner : String) (document : Json) :
    (meaning? source (nestedFields outer inner document)).map Criterion.joined =
      (meaning? source (dottedFields outer inner document)).map Criterion.joined := by
  rw [nestedFields, dottedFields, meaning_field, meaning_field, fieldPath?_joined]
  cases Semantics.fieldPath? outer with
  | none => rfl
  | some front =>
    show ((Semantics.fieldBelow? source front).bind _).map _ =
      (((Semantics.fieldPath? inner).map (front ++ ·)).bind _).map _
    rw [Semantics.fieldBelow?]
    split
    · rename_i hfields
      show (meaning? (.field source front) _).map _ = _
      rw [meaning_field]
      cases Semantics.fieldPath? inner with
      | none => rfl
      | some back =>
        show (meaning? (.field (.field source front) back) document).map _ =
          ((Semantics.fieldBelow? source (front ++ back)).bind _).map _
        rw [Semantics.fieldBelow?, if_pos hfields]
        exact meaning_joins document _ _ (Source.extend_extend _ _ _)
    · rename_i hfields
      cases Semantics.fieldPath? inner with
      | none => rfl
      | some back =>
        show none = ((Semantics.fieldBelow? source (front ++ back)).bind _).map _
        rw [Semantics.fieldBelow?, if_neg hfields]
        rfl

/-- Readings with the same tree but for the marks and for the joining of the sources. -/
theorem same_of_joined {x y : Except Rejection PlacedCriterion}
    (h : (unmarked? x).map Criterion.joined = (unmarked? y).map Criterion.joined) :
    (Accepts x ↔ Accepts y) ∧ ∀ c d, x = .ok c → y = .ok d →
      c.nodeCount = d.nodeCount ∧ ∀ situation, c.holds situation = d.holds situation := by
  cases x with
  | error r =>
    cases y with
    | error r' => exact ⟨by simp [Accepts], fun c d hc => by cases hc⟩
    | ok d => cases h
  | ok c =>
    cases y with
    | error r => cases h
    | ok d =>
      have htree : (c.map fun _ => ()).joined = (d.map fun _ => ()).joined := Option.some.inj h
      refine ⟨iff_of_true ⟨c, rfl⟩ ⟨d, rfl⟩, ?_⟩
      intro c' d' hc hd
      cases hc
      cases hd
      constructor
      · rw [← nodeCount_map c, ← nodeCount_joined, htree, nodeCount_joined, nodeCount_map]
      · intro situation
        rw [← holds_map situation c, ← holds_joined, htree, holds_joined, holds_map]

/-- Nested fields and a dotted one are accepted together, and give trees of one size that hold in the
same situations, whatever stands below the fields. -/
theorem dotted_fields (place : Place) (outer inner : String) (document : Json)
    (hnested : place.InLimits (nestedFields outer inner document))
    (hdotted : place.InLimits (dottedFields outer inner document)) :
    (Accepts (read (nestedFields outer inner document) place) ↔
      Accepts (read (dottedFields outer inner document) place)) ∧
    ∀ c d, read (nestedFields outer inner document) place = .ok c →
      read (dottedFields outer inner document) place = .ok d →
      c.nodeCount = d.nodeCount ∧ ∀ situation, c.holds situation = d.holds situation := by
  refine same_of_joined ?_
  rw [unmarked_read_of_inLimits hnested, unmarked_read_of_inLimits hdotted]
  exact meaning_nestedFields place.source outer inner document

/-- A presence below nested fields, and below the dotted one. -/
theorem dotted_fields_presence :
    ∃ c d, read (nestedFields "games" "chess.rating" (.object [("presence", .bool true),
        ("sinceDateComparison", .object [("gt", .string "-P30D")])])) (.root .standard) = .ok c ∧
      read (dottedFields "games" "chess.rating" (.object [("presence", .bool true),
        ("sinceDateComparison", .object [("gt", .string "-P30D")])])) (.root .standard) = .ok d ∧
      c.nodeCount = d.nodeCount ∧ ∀ situation, c.holds situation = d.holds situation := by
  have h := dotted_fields (.root .standard) "games" "chess.rating" (.object [("presence", .bool true),
    ("sinceDateComparison", .object [("gt", .string "-P30D")])])
    (.room (by unfold Place.HasRoom; decide +kernel))
    (.room (by unfold Place.HasRoom; decide +kernel))
  obtain ⟨hiff, hsame⟩ := h
  have hnested := accepts_of_isOk (x := read (nestedFields "games" "chess.rating"
    (.object [("presence", .bool true), ("sinceDateComparison",
      .object [("gt", .string "-P30D")])])) (.root .standard)) (by decide +kernel)
  obtain ⟨d, hd⟩ := hiff.1 hnested
  obtain ⟨c, hc⟩ := hnested
  exact ⟨c, d, hc, hd, hsame c d hc hd⟩

end Criterion

end Audience
