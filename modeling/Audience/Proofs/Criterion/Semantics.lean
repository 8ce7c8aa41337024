import Audience.Proofs.Criterion.Curtailed
import Audience.Proofs.Criterion.Outcome
import Audience.Proofs.Criterion.Reading

/-!
# The rules of one level without places

What a value spells under a source, apart from where it stands. The rules of one level are written
down once more, against the meanings of what is below, with neither places nor reasons for a refusal.
They are what a document means: a value spells under a source what these rules make of it.

* **`Semantics`**: what values spell under sources. **`Semantics.level`**: one level, given what is
  below it.
* **`Criterion.meaning_eq_level`**: the meaning of a value by the meanings of what it holds.
  **`Criterion.meaning_question`**: that of a question about the value of a source.
* **`Place.InLimits`**, **`Criterion.unmarked_read_of_inLimits`**: where limits do not cut a reading
  short, a value is read as what it means. **`Criterion.exists_read`**, **`Criterion.exists_meaning`**:
  so a verdict is the verdict on the meaning.
-/

namespace Audience

/-- Whether a keyword asks something of a value. -/
def Keyword.asks : Keyword → Bool
  | order _ | equal | any | all | startsWith | inside => true
  | _ => false

/-- The trees, without marks, that values spell under sources. -/
abbrev Semantics := Source → Json → Option (Criterion Unit)

namespace Semantics

/-! ### Literals and sources -/

/-- The literal that a value spells under a source. -/
def literal? (source : Source) (json : Json) : Option Literal :=
  (Literal.ofJson (Criterion.roomFor source json) json).toOption

/-- The area of a literal. -/
def area? : Literal → Option Geo.Area
  | .area value => some value
  | _ => none

/-- The segments of a dotted path, if none of them is empty. -/
def fieldPath? (path : String) : Option (List String) :=
  let segments := Text.segments '.' path
  if segments.any String.isEmpty then none else some segments

/-- A custom field below a source. -/
def fieldBelow? (parent : Source) (segments : List String) : Option Source :=
  if parent.hasFields then some (.field parent segments) else none

/-- The source that segments lead to from a base. -/
def sourceBelow? (base : Source) (segments : List String) : Option Source :=
  match segments with
  | [] => some base
  | _ =>
      if segments = ["lastActivityDate"] then
        if base.isOwner then some (.lastActivity base) else none
      else fieldBelow? base segments

/-- The source that segments lead to, from the root they start with or from the one in force. -/
def sourceOf? (source : Source) (segments : List String) : Option Source :=
  match segments with
  | "installation" :: rest => sourceBelow? .installation rest
  | "user" :: rest => sourceBelow? .user rest
  | _ => sourceBelow? source segments

/-- The source of a dotted path, given the one in force. -/
def source? (source : Source) (path : String) : Option Source :=
  (fieldPath? path).bind (sourceOf? source)

/-- The source of a key below `geo`. -/
def geoSource? (scope : Source) (key : String) : Option Source :=
  if key = "location" then some (.location scope)
  else if key = "date" then some (.locationDate scope)
  else none

/-- The source that a `presence` with members beside it is about. -/
def besideSource? (source : Source) (members : List (String × Json)) : Option Source :=
  match Json.find? members "source" with
  | none => some source
  | some value => value.string?.bind (source? source)

/-! ### Values under keywords -/

/-- The items of an array. -/
def items? : Json → Option (List Json)
  | .array items => some items
  | _ => none

/-- The literals that the items of an array spell. -/
def literals? (source : Source) (value : Json) : Option (List Literal) :=
  (items? value).bind fun items => items.mapM (literal? source)

/-- What is asked of a value under a keyword. -/
def question? (source : Source) (keyword : Keyword) (value : Json) : Option Test :=
  match keyword with
  | .order operator => (literal? source value).map (.order operator)
  | .equal => (literal? source value).map .equal
  | .any => (literals? source value).map .any
  | .all => (literals? source value).map .all
  | .startsWith => value.string?.map .startsWith
  | .inside => ((literal? source value).bind area?).map .inside
  | _ => none

variable (below : Semantics)

/-- The criteria that the items of an array spell. -/
def criteria? (source : Source) (value : Json) : Option (List (Criterion Unit)) :=
  (items? value).bind fun items => items.mapM (below source)

/-- What a value that may be missing spells. -/
def given? (source : Source) : Option Json → Option (Option (Criterion Unit))
  | none => some none
  | some json => (below source json).map some

/-- A presence with its comparisons. -/
def presence? (about : Source) (present : Bool) (since elapsed : Option Json) :
    Option (Criterion Unit) :=
  (below.given? (.sinceDate about) since).bind fun since =>
    (below.given? (.elapsedTime about) elapsed).map fun elapsed =>
      .presence () about present since elapsed

/-- What the members below `presence` have given so far. -/
structure PresenceParts where
  present : Option Bool
  sinceDate : Option (Criterion Unit)
  elapsedTime : Option (Criterion Unit)

/-- A member below `presence`. -/
def presenceMember? (source : Source) (parts : PresenceParts) (entry : String × Json) :
    Option PresenceParts :=
  if entry.1 = "present" then
    match entry.2 with
    | .bool present => some { parts with present := some present }
    | _ => none
  else if entry.1 = "sinceDate" then
    (below (.sinceDate source) entry.2).map fun inner => { parts with sinceDate := some inner }
  else if entry.1 = "elapsedTime" then
    (below (.elapsedTime source) entry.2).map fun inner => { parts with elapsedTime := some inner }
  else none

/-- The members below `presence`. -/
def presenceWithin? (source : Source) (members : List (String × Json)) : Option (Criterion Unit) :=
  (members.foldlM (below.presenceMember? source) ⟨none, none, none⟩).bind fun parts =>
    parts.present.map fun present =>
      .presence () source present parts.sinceDate parts.elapsedTime

/-- A member below `geo`. -/
def geoMember? (scope : Source) (entry : String × Json) : Option (Criterion Unit) :=
  (geoSource? scope entry.1).bind fun source => below source entry.2

/-- What stands under `geo`. -/
def geo? (scope : Source) : Json → Option (Criterion Unit)
  | .object (first :: rest) =>
      ((first :: rest).mapM (below.geoMember? scope)).map (Criterion.allOf ())
  | _ => none

/-- What stands under a keyword in an object with given members. -/
def keyworded? (source : Source) (members : List (String × Json)) (keyword : Keyword)
    (value : Json) : Option (Criterion Unit) :=
  match keyword with
  | .field path =>
      (fieldPath? path).bind fun segments =>
        (fieldBelow? source segments).bind fun field => below field value
  | .and => (below.criteria? source value).map (.and ())
  | .or => (below.criteria? source value).map (.or ())
  | .not => (below source value).map (.not ())
  | .installation => if source.isRoot then below .installation value else none
  | .user => if source.isRoot then below .user value else none
  | .event => if source.isRoot then (below .event value).map (.someEvent ()) else none
  | .lastActivity => if source.isOwner then below (.lastActivity source) value else none
  | .geo => if source.isOwner then below.geo? source value else none
  | .subscription =>
      if source.isOwner then
        (value.string?.bind SubscriptionStatus.ofName?).map (.subscription () source)
      else none
  | .presence =>
      match value with
      | .bool present =>
          (besideSource? source members).bind fun about =>
            below.presence? about present (Json.find? members "sinceDateComparison")
              (Json.find? members "elapsedTimeComparison")
      | .object inner => below.presenceWithin? source inner
      | _ => none
  | .order _ | .equal | .any | .all | .startsWith | .inside =>
      if source.isRoot then none else (question? source keyword value).map (.test () source)

/-- The members in `rest`, of an object whose members are `members`. -/
def parts? (source : Source) (members : List (String × Json)) :
    List (String × Json) → Option (List (Criterion Unit))
  | [] => some []
  | (key, value) :: rest =>
      if Criterion.isPresenceSibling key then
        if Criterion.hasBooleanPresence members then parts? source members rest else none
      else
        ((Keyword.ofKey? key).bind fun keyword =>
          below.keyworded? source members keyword value).bind fun first =>
            (parts? source members rest).map (first :: ·)

/-- One level, given what is below it. -/
def level : Semantics
  | _, .object [] => some (.matchAll ())
  | source, .object members =>
      (below.parts? source members members).map (Criterion.allOf ())
  | _, _ => none

end Semantics

/-! ### Outcomes without marks -/

section

variable {α β α' β' : Type} {place child : Place} {members : List (String × Json)} {value : Json}

theorem toOption_eq_of_alike {x y : Except Rejection α} (h : Alike (fun _ _ => True) Eq x y) :
    x.toOption = y.toOption := by
  cases h with
  | ok h => rw [h]
  | error h => rfl

theorem toOption_bind (x : Except Rejection α) (f : α → Except Rejection β) :
    (x >>= f).toOption = x.toOption.bind fun a => (f a).toOption := by
  cases x <;> rfl

/-- What is left of a result is carried through a step that only needs what is left. -/
theorem toOption_map_bind {x : Except Rejection α} {f : α → Except Rejection β} {rest : α → α'}
    {rest' : β → β'} {y : Option α'} {g : α' → Option β'} (hx : x.toOption.map rest = y)
    (next : ∀ a, (f a).toOption.map rest' = g (rest a)) :
    (x >>= f).toOption.map rest' = y.bind g := by
  subst hx
  cases x with
  | error r => rfl
  | ok a => exact next a

theorem toOption_map_pure {x : Except Rejection α} {f : α → β} {rest : α → α'}
    {rest' : β → β'} {y : Option α'} {g : α' → β'} (hx : x.toOption.map rest = y)
    (next : ∀ a, rest' (f a) = g (rest a)) :
    (x >>= fun a => pure (f a)).toOption.map rest' = y.map g := by
  subst hx
  cases x with
  | error r => rfl
  | ok a => exact congrArg some (next a)

namespace Criterion

theorem unmarked_bind (x : Except Rejection α) (f : α → Except Rejection PlacedCriterion) :
    unmarked? (x >>= f) = x.toOption.bind fun a => unmarked? (f a) := by
  cases x <;> rfl

/-! ### Steps that use a place for its source only -/

theorem unmarked_needRoot {key : String} {f : Unit → Except Rejection PlacedCriterion} :
    unmarked? (needRoot place child key >>= f) =
      if place.source.isRoot then unmarked? (f ()) else none := by
  rw [needRoot]
  split <;> rfl

theorem unmarked_needOwner {key : String} {f : Unit → Except Rejection PlacedCriterion} :
    unmarked? (needOwner place child key >>= f) =
      if place.source.isOwner then unmarked? (f ()) else none := by
  rw [needOwner]
  split <;> rfl

theorem unmarked_needValue {key : String} {f : Unit → Except Rejection PlacedCriterion} :
    unmarked? (needValue place child key >>= f) =
      if place.source.isRoot then none else unmarked? (f ()) := by
  rw [needValue]
  split <;> rfl

theorem toOption_fieldPath (path : String) :
    (fieldPath place path).toOption = Semantics.fieldPath? path := by
  unfold fieldPath Semantics.fieldPath?
  dsimp only
  split <;> rfl

theorem toOption_fieldBelow (parent : Source) (segments : List String) :
    (fieldBelow place parent segments).toOption = Semantics.fieldBelow? parent segments := by
  rw [fieldBelow, Semantics.fieldBelow?]
  split <;> rfl

theorem toOption_sourceBelow (base : Source) (segments : List String) :
    (sourceBelow place base segments).toOption = Semantics.sourceBelow? base segments := by
  cases segments with
  | nil => rfl
  | cons first rest =>
    unfold sourceBelow Semantics.sourceBelow?
    dsimp only
    split
    · split <;> rfl
    · exact toOption_fieldBelow base _

/-- Segments that start with no root lead below the source in force. -/
theorem sourceOf?_of_other {source : Source} {segments : List String}
    (hinstallation : ∀ rest, segments ≠ "installation" :: rest)
    (huser : ∀ rest, segments ≠ "user" :: rest) :
    Semantics.sourceOf? source segments = Semantics.sourceBelow? source segments := by
  unfold Semantics.sourceOf?
  split
  · exact absurd rfl (hinstallation _)
  · exact absurd rfl (huser _)
  · rfl

theorem toOption_sourceOfPath (path : String) :
    (sourceOfPath place path).toOption = Semantics.source? place.source path := by
  rw [sourceOfPath, toOption_bind, toOption_fieldPath, Semantics.source?]
  congr 1
  funext segments
  split
  · exact toOption_sourceBelow _ _
  · exact toOption_sourceBelow _ _
  · rename_i hinstallation huser
    rw [sourceOf?_of_other hinstallation huser]
    exact toOption_sourceBelow _ _

theorem toOption_geoSource (scope : Source) (key : String) :
    (geoSource place scope key).toOption = Semantics.geoSource? scope key := by
  rw [geoSource, Semantics.geoSource?]
  split
  · rfl
  · split <;> rfl

theorem toOption_stringOf (key : String) (value : Json) :
    (stringOf child key value).toOption = value.string? := by
  cases value <;> rfl

theorem toOption_statusOf (key : String) (value : Json) :
    (statusOf child key value).toOption = value.string?.bind SubscriptionStatus.ofName? := by
  rw [statusOf, toOption_bind, toOption_stringOf]
  congr 1
  funext name
  cases SubscriptionStatus.ofName? name <;> rfl

/-! ### Steps into a value there is room for -/

theorem toOption_literal (hroom : child.HasRoom value) :
    (Literal.ofJson child value).toOption = Semantics.literal? child.source value := by
  have hplaces : Simulation.roomy.places value child (roomFor child.source value) :=
    ⟨rfl, hroom, hasRoom_roomFor _ _⟩
  exact toOption_eq_of_alike (Simulation.literal_ofJson hplaces)

theorem toOption_area (hroom : child.HasRoom value) :
    (Literal.areaOfJson child value).toOption =
      (Semantics.literal? child.source value).bind Semantics.area? := by
  rw [Literal.areaOfJson, toOption_bind, toOption_literal hroom]
  congr 1
  funext literal
  cases literal <;> rfl

/-- The items of an array are read one by one. -/
theorem toOption_items {read : Json → Place → Except Rejection α} {rest : α → α'}
    {meaning : Json → Option α'} {all : List Json} (hroom : place.HasRoom (.array all))
    (hread : ∀ item inner, inner.source = place.source → inner.HasRoom item →
      (read item inner).toOption.map rest = meaning item) :
    ∀ (given : List Json) (start : Nat), (∀ item ∈ given, item ∈ all) →
      (items read place start given).toOption.map (List.map rest) = given.mapM meaning := by
  intro given
  induction given with
  | nil =>
    intro start _
    rfl
  | cons item others ih =>
    intro start hall
    obtain ⟨inner, hinner, hsource, hinnerRoom⟩ := hroom.index (hall item List.mem_cons_self) start
    rw [items, hinner, List.mapM_cons]
    show (read item inner >>= _).toOption.map _ = _
    refine toOption_map_bind (hread item inner hsource hinnerRoom) fun first => ?_
    have hothers := ih (start + 1) fun other hother => hall other (List.mem_cons_of_mem _ hother)
    exact toOption_map_bind hothers fun tail => rfl

theorem toOption_literalList (hroom : child.HasRoom value) (key : String) :
    (literalList child key value).toOption =
      Semantics.literals? child.source value := by
  cases value with
  | array values =>
    have hread : ∀ item (inner : Place), inner.source = child.source → inner.HasRoom item →
        (Literal.ofJson inner item).toOption.map id = Semantics.literal? child.source item := by
      intro item inner hsource hinner
      rw [Option.map_id_fun, ← hsource]
      exact toOption_literal hinner
    have h := toOption_items hroom hread values 0 fun _ h => h
    rw [List.map_id_fun, Option.map_id_fun] at h
    exact h
  | null | bool | number | string | object => rfl

theorem toOption_criteriaList (hroom : child.HasRoom value) (key : String) :
    (criteriaList read child key value).toOption.map (List.map (Criterion.map fun _ => ())) =
      Semantics.criteria? meaning? child.source value := by
  cases value with
  | array values =>
    refine toOption_items hroom ?_ values 0 fun _ h => h
    intro item inner hsource hinner
    rw [← hsource]
    exact unmarked_read hinner
  | null | bool | number | string | object => rfl

/-! ### Below `geo` and `presence` -/

theorem toOption_geoMembers (hroom : child.HasRoom (.object members)) :
    ∀ rest : List (String × Json), (∀ entry ∈ rest, entry ∈ members) →
      (geoMembers read child rest).toOption.map (List.map (Criterion.map fun _ => ())) =
        rest.mapM (Semantics.geoMember? meaning? child.source) := by
  intro rest
  induction rest with
  | nil =>
    intro _
    rfl
  | cons entry rest ih =>
    intro hrest
    obtain ⟨key, value⟩ := entry
    obtain ⟨sub, hsub, hsource, hsubRoom⟩ := hroom.key (hrest (key, value) List.mem_cons_self)
    have hothers := ih fun other hother => hrest other (List.mem_cons_of_mem _ hother)
    have hgeo : (geoSource sub child.source key).toOption = _ := toOption_geoSource _ _
    rw [geoMembers, hsub, List.mapM_cons, Semantics.geoMember?, ← hgeo]
    show (geoSource sub child.source key >>= _).toOption.map _ = _
    cases geoSource sub child.source key with
    | error r => rfl
    | ok source =>
      show (read value (sub.withSource source) >>= _).toOption.map _ = _
      refine toOption_map_bind (unmarked_read (hsubRoom.withSource source)) fun first => ?_
      exact toOption_map_bind hothers fun tail => rfl

theorem unmarked_geoOf (hroom : child.HasRoom value) :
    unmarked? (geoOf read child value) = Semantics.geo? meaning? child.source value := by
  match value with
  | .object (first :: rest) =>
    refine toOption_map_pure (toOption_geoMembers hroom _ fun _ h => h) fun parts => ?_
    exact map_allOf _ _
  | .object [] | .null | .bool _ | .number _ | .string _ | .array _ => rfl

theorem toOption_under (hroom : place.HasRoom (.object members)) (key : String)
    (source : Source) :
    (under read place key source (Json.find? members key)).toOption.map
        (Option.map (Criterion.map fun _ => ())) =
      Semantics.given? meaning? source (Json.find? members key) := by
  cases hvalue : Json.find? members key with
  | none => rfl
  | some value =>
    obtain ⟨sub, hsub, _, hsubRoom⟩ := hroom.key (Json.mem_of_find? hvalue)
    rw [under, hsub]
    show (read value (sub.withSource source) >>= _).toOption.map _ = _
    exact toOption_map_pure (unmarked_read (hsubRoom.withSource source)) fun _ => rfl

theorem toOption_besideSource (hroom : place.HasRoom (.object members)) :
    (besideSource place members).toOption = Semantics.besideSource? place.source members := by
  rw [besideSource, Semantics.besideSource?]
  cases hvalue : Json.find? members "source" with
  | none => rfl
  | some value =>
    obtain ⟨sub, hsub, hsource, _⟩ := hroom.key (Json.mem_of_find? hvalue)
    rw [hsub]
    show (stringOf sub "source" value >>= _).toOption = value.string?.bind _
    rw [toOption_bind, toOption_stringOf, ← hsource]
    congr 1
    funext path
    exact toOption_sourceOfPath path

theorem unmarked_presenceBeside (hroom : place.HasRoom (.object members)) (present : Bool) :
    unmarked? (presenceBeside read place child present members) =
      (Semantics.besideSource? place.source members).bind fun about =>
        Semantics.presence? meaning? about present
          (Json.find? members "sinceDateComparison")
          (Json.find? members "elapsedTimeComparison") := by
  rw [presenceBeside, unmarked_bind, toOption_besideSource hroom]
  congr 1
  funext about
  refine toOption_map_bind (toOption_under hroom _ _) fun since => ?_
  refine toOption_map_pure (toOption_under hroom _ _) fun elapsed => ?_
  rw [Criterion.map, mapOf_eq_map, mapOf_eq_map]

/-- What members below `presence` have given, without marks. -/
def PresenceParts.unmarked (parts : PresenceParts) : Semantics.PresenceParts :=
  ⟨parts.present, parts.sinceDate.map (Criterion.map fun _ => ()),
    parts.elapsedTime.map (Criterion.map fun _ => ())⟩

theorem toOption_presenceMember (hroom : child.HasRoom (.object members))
    (parts : PresenceParts) {key : String} (hmem : (key, value) ∈ members) :
    (presenceMember read child parts key value).toOption.map PresenceParts.unmarked =
      Semantics.presenceMember? meaning? child.source parts.unmarked (key, value) := by
  obtain ⟨sub, hsub, _, hsubRoom⟩ := hroom.key hmem
  rw [presenceMember, hsub, Semantics.presenceMember?]
  show Option.map _ (Except.toOption (if key = "present" then _ else _)) = _
  split
  · cases value <;> rfl
  split
  · exact toOption_map_pure (unmarked_read (hsubRoom.withSource _)) fun _ => rfl
  split
  · exact toOption_map_pure (unmarked_read (hsubRoom.withSource _)) fun _ => rfl
  · rfl

theorem toOption_presenceMembers (hroom : child.HasRoom (.object members)) :
    ∀ (rest : List (String × Json)) (parts : PresenceParts), (∀ entry ∈ rest, entry ∈ members) →
      (rest.foldlM (fun parts entry => presenceMember read child parts entry.1 entry.2)
          parts).toOption.map PresenceParts.unmarked =
        rest.foldlM (Semantics.presenceMember? meaning? child.source) parts.unmarked := by
  intro rest
  induction rest with
  | nil =>
    intro parts _
    rfl
  | cons entry rest ih =>
    intro parts hrest
    rw [List.foldlM_cons, List.foldlM_cons]
    refine toOption_map_bind (toOption_presenceMember hroom parts (hrest entry ?_)) fun next => ?_
    · exact List.mem_cons_self
    · exact ih next fun other hother => hrest other (List.mem_cons_of_mem _ hother)

theorem unmarked_presenceWithin (hroom : child.HasRoom (.object members)) :
    unmarked? (presenceWithin read child members) =
      Semantics.presenceWithin? meaning? child.source members := by
  unfold presenceWithin Semantics.presenceWithin?
  refine toOption_map_bind (toOption_presenceMembers hroom members _ fun _ h => h) fun parts => ?_
  obtain ⟨present, sinceDate, elapsedTime⟩ := parts
  cases present with
  | none => rfl
  | some present =>
    show some (Criterion.map _ _) = some _
    rw [Criterion.map, mapOf_eq_map, mapOf_eq_map]
    rfl

/-! ### One level -/

/-- A test under a keyword is denoted by the question that the keyword asks. -/
theorem unmarked_tested {x : Except Rejection α} {question : α → Test} {key : String}
    {asked : Option Test} (h : x.toOption.map question = asked) :
    unmarked? (do needValue place child key; return .test child place.source (question (← x))) =
      if place.source.isRoot then none else asked.map (.test () place.source) := by
  rw [unmarked_needValue]
  subst h
  cases x <;> rfl

theorem unmarked_keyworded (hroom : place.HasRoom (.object members))
    (hsource : child.source = place.source) (hchild : child.HasRoom value) (key : String)
    (keyword : Keyword) :
    unmarked? (keyworded read members place child key keyword value) =
      Semantics.keyworded? meaning? place.source members keyword value := by
  cases keyword with
  | field path =>
    show unmarked? (fieldPath child path >>= _) = _
    rw [unmarked_bind, toOption_fieldPath]
    show _ = (Semantics.fieldPath? path).bind _
    congr 1
    funext segments
    rw [unmarked_bind, toOption_fieldBelow]
    congr 1
    funext field
    exact unmarked_read (hchild.withSource field)
  | order operator =>
    refine unmarked_tested ?_
    rw [toOption_literal hchild, hsource]
    rfl
  | equal =>
    refine unmarked_tested ?_
    rw [toOption_literal hchild, hsource]
    rfl
  | any =>
    refine unmarked_tested ?_
    rw [toOption_literalList hchild, hsource]
    rfl
  | all =>
    refine unmarked_tested ?_
    rw [toOption_literalList hchild, hsource]
    rfl
  | startsWith =>
    refine unmarked_tested ?_
    rw [toOption_stringOf]
    rfl
  | inside =>
    refine unmarked_tested ?_
    rw [toOption_area hchild, hsource]
    rfl
  | and =>
    have hcriteria := toOption_criteriaList hchild key
    rw [hsource] at hcriteria
    refine toOption_map_pure hcriteria fun parts => ?_
    rw [Criterion.map, maps_eq_map]
  | or =>
    have hcriteria := toOption_criteriaList hchild key
    rw [hsource] at hcriteria
    refine toOption_map_pure hcriteria fun parts => ?_
    rw [Criterion.map, maps_eq_map]
  | not =>
    refine toOption_map_pure ?_ fun _ => rfl
    rw [← hsource]
    exact unmarked_read hchild
  | installation =>
    rw [keyworded, unmarked_needRoot, unmarked_read (hchild.withSource _)]
    rfl
  | user =>
    rw [keyworded, unmarked_needRoot, unmarked_read (hchild.withSource _)]
    rfl
  | event =>
    have hinner := unmarked_read (hchild.withSource .event)
    rw [keyworded, unmarked_needRoot]
    congr 1
    exact toOption_map_pure hinner fun _ => rfl
  | lastActivity =>
    rw [keyworded, unmarked_needOwner, unmarked_read (hchild.withSource _)]
    rfl
  | geo =>
    rw [keyworded, unmarked_needOwner, unmarked_geoOf hchild, hsource]
    rfl
  | subscription =>
    rw [keyworded, unmarked_needOwner]
    congr 1
    have hstatus : (statusOf child key value).toOption.map id =
        value.string?.bind SubscriptionStatus.ofName? := by
      rw [Option.map_id_fun]
      exact toOption_statusOf key value
    exact toOption_map_pure hstatus fun _ => rfl
  | presence =>
    cases value with
    | bool present => exact unmarked_presenceBeside hroom present
    | object inner =>
      rw [← hsource]
      exact unmarked_presenceWithin hchild
    | null | number | string | array => rfl

theorem unmarked_member (hroom : place.HasRoom (.object members)) {key : String}
    (hmem : (key, value) ∈ members) :
    unmarked? (member read members place key value) =
      (Keyword.ofKey? key).bind fun keyword =>
        Semantics.keyworded? meaning? place.source members keyword value := by
  obtain ⟨child, hchild, hsource, hchildRoom⟩ := hroom.key hmem
  rw [member, hchild]
  cases Keyword.ofKey? key with
  | none => rfl
  | some keyword => exact unmarked_keyworded hroom hsource hchildRoom key keyword

theorem toOption_parts (hroom : place.HasRoom (.object members)) :
    ∀ rest : List (String × Json), (∀ entry ∈ rest, entry ∈ members) →
      (parts read members place rest).toOption.map (List.map (Criterion.map fun _ => ())) =
        Semantics.parts? meaning? place.source members rest := by
  intro rest
  induction rest with
  | nil =>
    intro _
    rfl
  | cons entry rest ih =>
    intro hrest
    obtain ⟨key, value⟩ := entry
    have hmem := hrest (key, value) List.mem_cons_self
    have hothers := ih fun other hother => hrest other (List.mem_cons_of_mem _ hother)
    rw [parts, Semantics.parts?]
    split
    · split
      · exact hothers
      · obtain ⟨child, hchild, _⟩ := hroom.key hmem
        rw [hchild]
        rfl
    · refine toOption_map_bind (unmarked_member hroom hmem) fun first => ?_
      exact toOption_map_pure hothers fun _ => rfl

/-- A member under the key of a keyword. -/
theorem parts?_keyword {below : Semantics} {source : Source} {key : String} {keyword : Keyword}
    (hkey : Keyword.ofKey? key = some keyword) (rest : List (String × Json)) :
    Semantics.parts? below source members ((key, value) :: rest) =
      (below.keyworded? source members keyword value).bind fun first =>
        (Semantics.parts? below source members rest).map (first :: ·) := by
  have hsibling : ¬ isPresenceSibling key = true := by
    rw [isPresenceSibling_iff, Keyword.ofKey?_eq_some_iff.1 hkey]
    exact key_not_mem_siblingKeys keyword
  rw [Semantics.parts?, if_neg hsibling, hkey]
  rfl

/-- What a value means is made of what is below its first level by the rules of one level. -/
theorem meaning_eq_level (source : Source) (json : Json) :
    meaning? source json = Semantics.level meaning? source json := by
  have hroom := hasRoom_roomFor source json
  rw [meaning?, read_eq_level]
  match json with
  | .object [] => rfl
  | .object (first :: rest) =>
    refine toOption_map_pure (toOption_parts hroom _ fun _ h => h) fun given => ?_
    exact map_allOf _ _
  | .null | .bool _ | .number _ | .string _ | .array _ => rfl

/-- An object with one member means what the member does. -/
theorem meaning_keyword {key : String} {keyword : Keyword}
    (hkey : Keyword.ofKey? key = some keyword) (source : Source) (value : Json) :
    meaning? source (.object [(key, value)]) =
      Semantics.keyworded? meaning? source [(key, value)] keyword value := by
  rw [meaning_eq_level]
  show (Semantics.parts? meaning? source _ _).map _ = _
  rw [parts?_keyword hkey]
  cases Semantics.keyworded? meaning? source [(key, value)] keyword value <;> rfl

/-- An object that asks something of the value of a source means a test of it. -/
theorem meaning_question {keyword : Keyword} (hasks : keyword.asks = true) {source : Source}
    (hroot : source.isRoot = false) (value : Json) :
    meaning? source (.object [(keyword.key, value)]) =
      (Semantics.question? source keyword value).map (.test () source) := by
  rw [meaning_keyword (Keyword.ofKey?_key keyword)]
  cases keyword with
  | order | equal | any | all | startsWith | inside =>
    show (if source.isRoot then none
      else (Semantics.question? source _ value).map (Criterion.test () source)) = _
    rw [hroot]
    rfl
  | _ => cases hasks

end Criterion

end

/-! ### Readings that limits do not cut short -/

/-- The limits do not cut short the reading of a value at a place: there is room for all of it, or it
is read without a refusal that the limits cause. -/
inductive Place.InLimits (place : Place) (json : Json) : Prop
  | room (h : place.HasRoom json)
  | unhindered (hdepth : place.depth ≤ place.limits.maxDepth)
      (h : ∀ rejection, Criterion.read json place = .error rejection →
        ¬ rejection.OfLimits place.limits)

namespace Criterion

theorem unmarked_eq_of_standing {x y : Except Rejection PlacedCriterion} {limits limits' : Limits}
    (hle : limits.maxDepth ≤ limits'.maxDepth)
    (h : Alike Eq (Simulation.curtailed hle).SameTree x y) : unmarked? x = unmarked? y := by
  cases h with
  | ok h =>
    have hunmarked := congrArg (Criterion.map fun _ => ()) h
    rw [map_map, map_map] at hunmarked
    exact congrArg some hunmarked
  | error h => rfl

/-- Where limits do not cut the reading short, a value is read as what it means under the source in
force. -/
theorem unmarked_read_of_inLimits {json : Json} {place : Place} (h : place.InLimits json) :
    unmarked? (read json place) = meaning? place.source json := by
  cases h with
  | room h => exact unmarked_read h
  | unhindered hdepth h =>
    -- the same place under a depth limit that leaves room
    let large : Limits := { place.limits with maxDepth := place.limits.maxDepth + json.height }
    let roomy : Place := { place with limits := large }
    have hle : place.limits.maxDepth ≤ large.maxDepth := Nat.le_add_right _ _
    have hroom : roomy.HasRoom json := Nat.add_le_add_right hdepth _
    have hplaces : (Simulation.curtailed hle).places json place roomy := ⟨rfl, hdepth, rfl, rfl⟩
    have hread := Simulation.read hplaces
    rw [← unmarked_read hroom]
    generalize hx : read json place = x at hread h
    cases hread with
    | ended hended => exact absurd hended (h _ rfl)
    | alike hread => exact unmarked_eq_of_standing hle hread

/-- A value is accepted if it means a tree. -/
theorem accepts_read_iff {json : Json} {place : Place} (hlimits : place.InLimits json) :
    Accepts (read json place) ↔ (meaning? place.source json).isSome = true := by
  rw [← unmarked_read_of_inLimits hlimits]
  cases read json place with
  | ok c => exact iff_of_true (accepts_ok c) rfl
  | error r =>
    refine iff_of_false (fun h => ?_) Bool.false_ne_true
    obtain ⟨c, hc⟩ := h
    cases hc

/-- What is read holds when the tree does that is meant. -/
theorem exists_meaning {json : Json} {place : Place} {c : PlacedCriterion}
    (hlimits : place.InLimits json) (hc : read json place = .ok c) :
    ∃ tree, meaning? place.source json = some tree ∧
      ∀ situation, c.holds situation = tree.holds situation := by
  rw [← unmarked_read_of_inLimits hlimits, hc]
  exact ⟨c.map fun _ => (), rfl, fun situation => (holds_map situation c).symm⟩

/-- A value that means a tree is accepted there, and holds when the tree does. -/
theorem exists_read {json : Json} {place : Place} {tree : Criterion Unit}
    (hlimits : place.InLimits json) (h : meaning? place.source json = some tree) :
    ∃ c, read json place = .ok c ∧ ∀ situation, c.holds situation = tree.holds situation := by
  obtain ⟨c, hc⟩ := (accepts_read_iff hlimits).2 (Option.isSome_of_eq_some h)
  obtain ⟨meant, hmeant, hholds⟩ := exists_meaning hlimits hc
  rw [h] at hmeant
  cases hmeant
  exact ⟨c, hc, hholds⟩

end Criterion

end Audience
