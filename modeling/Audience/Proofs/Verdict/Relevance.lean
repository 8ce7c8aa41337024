import Audience.Proofs.Criterion.WellFormed
import Audience.Proofs.Verdict.Calls
import Mathlib.Data.List.Forall2
import Mathlib.Data.Option.Basic

/-!
# What a verdict depends on

A criterion asks about sources, and a source is read from the record of one scope: from its typed
fields, or from one custom field and the instant at which that field changed. Subjects that are the
same as far as the criterion looks get the same verdict.

* **`Source.fieldRead?`**, **`Record.SameFor`**: the custom field that a source is read from, and
  records that are the same but for custom fields that are not read.
* **`Resolution.SameBut`**, **`Situation.resolve_same`**: a source resolves to the same value, or to
  scopes that only differ in their custom fields.
* **`Criterion.Mentions`**, **`Criterion.ReadsField`**, **`Criterion.Joins`**: what a criterion looks at.
  **`Subject.SameFor`**, **`Situation.SameFor`**: subjects and situations that are the same there.
* **`Criterion.verdict_of_mentioned`**: an accepted criterion has one verdict on subjects that are the
  same as far as it looks, whatever event is looked at from outside.
-/

namespace Audience

/-! ### What a source reads -/

/-- The path of the custom field that a source is read from, from the scope at the start. -/
def Source.fieldRead? : Source → Option (List String)
  | field parent path => some (Situation.fieldChain parent path).2
  | sinceDate parent | elapsedTime parent => parent.fieldRead?
  | installation | user | event | lastActivity _ | location _ | locationDate _ => none

/-- Records that are the same but for custom fields: they hold the same under the first name of each of
the paths, and the fields at these paths changed at the same instants. -/
structure Record.SameFor (paths : List String → Prop) (first second : Record) : Prop where
  property : ∀ name rest, paths (name :: rest) →
    Json.find? first.properties name = Json.find? second.properties name
  changed : ∀ path, paths path → Json.find? first.updatedAt (".".intercalate path) =
    Json.find? second.updatedAt (".".intercalate path)
  rest : { first with properties := second.properties, updatedAt := second.updatedAt } = second

namespace Record.SameFor

variable {paths fewer : List String → Prop} {first second : Record}

theorem mono (h : first.SameFor paths second) (hsub : ∀ path, fewer path → paths path) :
    first.SameFor fewer second where
  property name rest hpath := h.property name rest (hsub _ hpath)
  changed path hpath := h.changed path (hsub _ hpath)
  rest := h.rest

theorem refl (paths : List String → Prop) (record : Record) : record.SameFor paths record where
  property _ _ _ := rfl
  changed _ _ := rfl
  rest := rfl

theorem lastActivityDate_eq (h : first.SameFor paths second) :
    first.lastActivityDate = second.lastActivityDate :=
  (congrArg Record.lastActivityDate h.rest :)

theorem presenceSince_eq (h : first.SameFor paths second) :
    first.presenceSince = second.presenceSince :=
  (congrArg Record.presenceSince h.rest :)

theorem location_eq (h : first.SameFor paths second) : first.location = second.location :=
  (congrArg Record.location h.rest :)

theorem locationDate_eq (h : first.SameFor paths second) :
    first.locationDate = second.locationDate :=
  (congrArg Record.locationDate h.rest :)

theorem subscriptionStatus_eq (h : first.SameFor paths second) :
    first.subscriptionStatus = second.subscriptionStatus :=
  (congrArg Record.subscriptionStatus h.rest :)

theorem field?_eq {path : List String} (h : first.SameFor paths second) (hpath : paths path) :
    first.field? path = second.field? path := by
  cases path with
  | nil => rfl
  | cons name rest => rw [Record.field?, Record.field?, h.property name rest hpath]

/-- A field that never changed on its own changed when its record was created. -/
theorem fieldChanged?_eq {path : List String} (h : first.SameFor paths second)
    (hpath : paths path) : first.fieldChanged? (".".intercalate path) =
      second.fieldChanged? (".".intercalate path) := by
  have hcreated : first.createdAt = second.createdAt := (congrArg Record.createdAt h.rest :)
  rw [Record.fieldChanged?, Record.fieldChanged?, h.changed path hpath, hcreated]

end Record.SameFor

/-! ### Resolution -/

/-- The same, or scopes that are the same but for custom fields. -/
inductive Resolution.SameBut : Resolution → Resolution → Prop
  | refl (resolution : Resolution) : SameBut resolution resolution
  | scope {paths : List String → Prop} {first second : Record} (h : first.SameFor paths second) :
      SameBut (.scope first) (.scope second)

namespace Resolution.SameBut

variable {first second : Resolution}

theorem value?_eq (h : first.SameBut second) : first.value? = second.value? := by
  cases h <;> rfl

theorem observed_eq (h : first.SameBut second) : first.observed = second.observed := by
  cases h with
  | refl => rfl
  | scope h => rw [Resolution.observed, Resolution.observed, h.presenceSince_eq]

theorem changedAt_eq (h : first.SameBut second) : first.changedAt = second.changedAt := by
  rw [Resolution.changedAt, Resolution.changedAt, h.observed_eq]

end Resolution.SameBut

namespace Situation

variable {first second : Situation} {paths : List String → Prop} {source : Source}

theorem root_fieldChain (source : Source) (segments : List String) :
    (fieldChain source segments).1.root = source.root := by
  induction source generalizing segments with
  | field parent path ih => exact ih _
  | _ => rfl

/-- Scopes with the same root as a source: of the source itself if it is a scope, and else none. -/
theorem scope?_same (h : Option.Rel (Record.SameFor paths) (first.scope? source.root)
    (second.scope? source.root)) :
    Option.Rel (Record.SameFor paths) (first.scope? source) (second.scope? source) := by
  cases source with
  | installation | user | event => exact h
  | _ => exact .none

theorem ofRecord_same {r r' : Option Record} (h : Option.Rel (Record.SameFor paths) r r') :
    (Resolution.ofRecord r).SameBut (.ofRecord r') := by
  cases h with
  | some h => exact .scope h
  | none => exact .refl _

theorem bind_same {β : Type} {r r' : Option Record} (h : Option.Rel (Record.SameFor paths) r r')
    {f : Record → Option β} (hf : ∀ x y, x.SameFor paths y → f x = f y) :
    r.bind f = r'.bind f := by
  cases h with
  | some h => exact hf _ _ h
  | none => rfl

theorem fieldOf_eq {record other : Record} {path : List String} (h : record.SameFor paths other)
    (hpath : paths path) : fieldOf record path = fieldOf other path := by
  rw [fieldOf, fieldOf, h.field?_eq hpath, h.fieldChanged?_eq hpath]

theorem resolveField_eq {parent : Source} {path : List String}
    (h : Option.Rel (Record.SameFor paths) (first.scope? parent.root) (second.scope? parent.root))
    (hpath : paths (fieldChain parent path).2) :
    first.resolveField parent path = second.resolveField parent path := by
  rw [← root_fieldChain parent path] at h
  unfold resolveField
  generalize fieldChain parent path = chain at h hpath ⊢
  obtain ⟨start, segments⟩ := chain
  dsimp only at h hpath ⊢
  have hstart := scope?_same h
  generalize first.scope? start = r at hstart ⊢
  generalize second.scope? start = r' at hstart ⊢
  cases hstart with
  | some h => exact fieldOf_eq h hpath
  | none => rfl

theorem locationOf_eq {record other : Record} (h : record.SameFor paths other) :
    locationOf record = locationOf other := by
  rw [locationOf, locationOf, h.location_eq, h.locationDate_eq]

/-- A source resolves to the same where the scope that it is read from is the same for it. -/
theorem resolve_same (hnow : first.now = second.now)
    (h : Option.Rel (Record.SameFor paths) (first.scope? source.root) (second.scope? source.root))
    (hpath : ∀ path, source.fieldRead? = some path → paths path) :
    (first.resolve source).SameBut (second.resolve source) := by
  induction source with
  | installation | user | event => exact ofRecord_same h
  | lastActivity parent =>
    have hscope : Option.Rel _ (first.scope? parent) (second.scope? parent) := scope?_same h
    rw [resolve, resolve, bind_same hscope fun _ _ h => h.lastActivityDate_eq]
    exact .refl _
  | field parent path =>
    have heq : first.resolveField parent path = second.resolveField parent path :=
      resolveField_eq h (hpath _ rfl)
    rw [resolve, resolve, heq]
    exact .refl _
  | sinceDate parent ih =>
    rw [resolve, resolve, (ih h hpath).changedAt_eq]
    exact .refl _
  | elapsedTime parent ih =>
    rw [resolve, resolve, (ih h hpath).changedAt_eq, hnow]
    exact .refl _
  | location parent =>
    have hscope : Option.Rel _ (first.scope? parent) (second.scope? parent) := scope?_same h
    rw [resolve, resolve]
    generalize first.scope? parent = r at hscope ⊢
    generalize second.scope? parent = r' at hscope ⊢
    cases hscope with
    | some h =>
      show (locationOf _).SameBut (locationOf _)
      rw [locationOf_eq h]
      exact .refl _
    | none => exact .refl _
  | locationDate parent =>
    have hscope : Option.Rel _ (first.scope? parent) (second.scope? parent) := scope?_same h
    rw [resolve, resolve, bind_same hscope fun _ _ h => h.locationDate_eq]
    exact .refl _

end Situation

/-! ### What a criterion looks at -/

namespace Criterion

variable {α : Type}

/-- The sources that a criterion asks about. -/
def asked (criterion : Criterion α) : List Source := criterion.nodes.filterMap asked?

/-- Whether a node asks for an event. -/
def isJoin : Criterion α → Bool
  | someEvent _ _ => true
  | _ => false

/-- The criterion asks about something that is read from the scope. -/
def Mentions (criterion : Criterion α) (scope : Source) : Prop :=
  ∃ source ∈ criterion.asked, source.root = scope

/-- The criterion asks about something that is read from the custom field at a path from the scope. -/
def ReadsField (criterion : Criterion α) (scope : Source) (path : List String) : Prop :=
  ∃ source ∈ criterion.asked, source.root = scope ∧ source.fieldRead? = some path

/-- The criterion asks for an event. -/
def Joins (criterion : Criterion α) : Prop := ∃ node ∈ criterion.nodes, node.isJoin = true

/-- The records of a scope are the same as far as a criterion looks: if it mentions the scope, both are
missing, or they are the same but for custom fields that it does not read. -/
def SameScope (criterion : Criterion α) (scope : Source) (first second : Option Record) : Prop :=
  criterion.Mentions scope → Option.Rel (Record.SameFor (criterion.ReadsField scope)) first second

variable {criterion inner : Criterion α} {scope : Source} {record other : Option Record}

theorem asked_of_child (hmem : inner ∈ criterion.children) {source : Source}
    (h : source ∈ inner.asked) : source ∈ criterion.asked := by
  obtain ⟨node, hnode, hasked⟩ := List.mem_filterMap.1 h
  exact List.mem_filterMap.2 ⟨node, mem_nodes_iff.2 (.inr ⟨inner, hmem, hnode⟩), hasked⟩

theorem mem_asked {source : Source} (h : criterion.asked? = some source) :
    source ∈ criterion.asked :=
  List.mem_filterMap.2 ⟨criterion, mem_nodes_iff.2 (.inl rfl), h⟩

theorem SameScope.refl (criterion : Criterion α) (scope : Source) (record : Option Record) :
    criterion.SameScope scope record record := by
  intro _
  cases record with
  | none => exact .none
  | some record => exact .some (.refl _ record)

theorem SameScope.of_child (h : criterion.SameScope scope record other)
    (hmem : inner ∈ criterion.children) : inner.SameScope scope record other := by
  intro hmentions
  obtain ⟨source, hsource, hroot⟩ := hmentions
  have hpaths : ∀ path, inner.ReadsField scope path → criterion.ReadsField scope path := by
    intro path hpath
    obtain ⟨reader, hreader, hstart, hread⟩ := hpath
    exact ⟨reader, asked_of_child hmem hreader, hstart, hread⟩
  cases h ⟨source, asked_of_child hmem hsource, hroot⟩ with
  | some hrecords => exact .some (hrecords.mono hpaths)
  | none => exact .none

end Criterion

/-- Subjects that are the same as far as a criterion looks. Events count only if it asks for one, and
then there are as many of them. -/
structure Subject.SameFor {α : Type} (criterion : Criterion α) (first second : Subject) : Prop where
  installation : criterion.SameScope .installation first.installation second.installation
  user : criterion.SameScope .user first.user second.user
  events : criterion.Joins → List.Forall₂
    (fun event other => criterion.SameScope .event (some event) (some other))
    first.events second.events

theorem Subject.SameFor.refl {α : Type} (criterion : Criterion α) (subject : Subject) :
    subject.SameFor criterion subject where
  installation := .refl criterion .installation _
  user := .refl criterion .user _
  events _ := List.forall₂_same.2 fun event _ => .refl criterion .event (some event)

/-- What a criterion looks at takes in what the criteria below it look at. -/
theorem Subject.SameFor.of_child {α : Type} {criterion inner : Criterion α} {first second : Subject}
    (h : first.SameFor criterion second) (hmem : inner ∈ criterion.children) :
    first.SameFor inner second where
  installation := h.installation.of_child hmem
  user := h.user.of_child hmem
  events hjoins := by
    obtain ⟨node, hnode, hjoin⟩ := hjoins
    have hevents := h.events ⟨node, Criterion.mem_nodes_iff.2 (.inr ⟨inner, hmem, hnode⟩), hjoin⟩
    exact hevents.imp fun _ _ hevent => hevent.of_child hmem

/-- Situations that are the same as far as a criterion looks. The event that is looked at counts only
where one is. -/
structure Situation.SameFor {α : Type} (looking : Bool) (criterion : Criterion α)
    (first second : Situation) : Prop where
  subject : first.subject.SameFor criterion second.subject
  event : looking = true → criterion.SameScope .event first.event second.event
  now : first.now = second.now

namespace Situation.SameFor

variable {α : Type} {looking : Bool} {criterion inner : Criterion α} {source : Source}
variable {first second : Situation}

theorem of_child (h : first.SameFor looking criterion second) (hmem : inner ∈ criterion.children) :
    first.SameFor looking inner second where
  subject := h.subject.of_child hmem
  event hlooking := (h.event hlooking).of_child hmem
  now := h.now

/-- Every source that is asked about resolves to the same. -/
theorem resolve_same (h : first.SameFor looking criterion second)
    (hasked : criterion.asked? = some source) (hsound : source.Sound looking) :
    (first.resolve source).SameBut (second.resolve source) := by
  have hmem : source ∈ criterion.asked := Criterion.mem_asked hasked
  have hmentions : ∀ {scope}, source.root = scope → criterion.Mentions scope :=
    fun hroot => ⟨source, hmem, hroot⟩
  have hrecords : Option.Rel (Record.SameFor (criterion.ReadsField source.root))
      (first.scope? source.root) (second.scope? source.root) := by
    cases hroot : source.root with
    | installation => exact h.subject.installation (hmentions hroot)
    | user => exact h.subject.user (hmentions hroot)
    | event => exact h.event (hsound.event hroot) (hmentions hroot)
    | _ => exact .none
  exact Situation.resolve_same h.now hrecords fun path hpath => ⟨source, hmem, rfl, hpath⟩

end Situation.SameFor

/-! ### Verdicts -/

namespace Criterion

variable {looking : Bool} {criterion : PlacedCriterion} {first second : Situation}

theorem any_eq_of_forall₂ {β : Type} {xs ys : List β} {p q : β → Bool}
    (h : List.Forall₂ (fun x y => p x = q y) xs ys) : xs.any p = ys.any q := by
  induction h with
  | nil => rfl
  | cons hhead _ ih => rw [List.any_cons, List.any_cons, hhead, ih]

theorem allHold_congr {parts : List PlacedCriterion}
    (h : ∀ part ∈ parts, part.holds first = part.holds second) :
    allHold first parts = allHold second parts := by
  rw [allHold_eq_all, allHold_eq_all, List.map_congr_left h]

theorem someHolds_congr {parts : List PlacedCriterion}
    (h : ∀ part ∈ parts, part.holds first = part.holds second) :
    someHolds first parts = someHolds second parts := by
  rw [someHolds_eq_any, someHolds_eq_any, List.map_congr_left h]

theorem holdsIfGiven_congr {inner : Option PlacedCriterion}
    (h : ∀ part, inner = some part → part.holds first = part.holds second) :
    holdsIfGiven first inner = holdsIfGiven second inner := by
  cases inner with
  | none => rfl
  | some part => exact h part rfl

theorem subscriptionHolds_same {source : Source} {status : SubscriptionStatus}
    (h : (first.resolve source).SameBut (second.resolve source)) :
    subscriptionHolds first source status = subscriptionHolds second source status := by
  unfold subscriptionHolds
  generalize first.resolve source = resolution at h ⊢
  generalize second.resolve source = resolution' at h ⊢
  cases h with
  | refl => rfl
  | scope h =>
    show (_ == some status) = (_ == some status)
    rw [h.subscriptionStatus_eq]

/-- A well formed criterion has one verdict in situations that are the same as far as it looks. -/
theorem holds_same (hwell : WellFormed looking criterion)
    (h : first.SameFor looking criterion second) : criterion.holds first = criterion.holds second := by
  induction hwell generalizing first second with
  | matchAll hmark => rfl
  | and hmark hparts ih =>
    rw [holds, holds]
    exact allHold_congr fun part hmem => ih part hmem (h.of_child hmem)
  | or hmark hparts ih =>
    rw [holds, holds]
    exact someHolds_congr fun part hmem => ih part hmem (h.of_child hmem)
  | not hmark hinner ih => rw [holds, holds, ih (h.of_child List.mem_cons_self)]
  | test hmark hsource hvalue hsuits hvalid =>
    rw [holds, holds, testHolds, testHolds, (h.resolve_same rfl hsource).value?_eq, h.now]
  | presence hmark hsource hsince hsinceTree helapsed helapsedTree ihSince ihElapsed =>
    have hobserve := (h.resolve_same rfl hsource).observed_eq
    have hsinceDate := holdsIfGiven_congr fun inner hinner =>
      ihSince inner hinner (h.of_child (List.mem_append_left _ (Option.mem_toList.2 hinner)))
    have helapsedTime := holdsIfGiven_congr fun inner hinner =>
      ihElapsed inner hinner (h.of_child (List.mem_append_right _ (Option.mem_toList.2 hinner)))
    rw [holds, holds, Situation.observe, Situation.observe, hobserve, hsinceDate, helapsedTime]
  | @someEvent _ mark inner hmark hinner ih =>
    have hjoins : (someEvent mark inner).Joins := ⟨_, mem_nodes_iff.2 (.inl rfl), rfl⟩
    have hmem : inner ∈ (someEvent mark inner).children := List.mem_cons_self
    rw [holds, holds]
    refine any_eq_of_forall₂ ((h.subject.events hjoins).imp ?_)
    -- below, the two events take the place of whatever is looked at outside
    intro event other hevent
    exact ih ⟨h.subject.of_child hmem, fun _ => hevent.of_child hmem, h.now⟩
  | subscription hmark hsource howner =>
    rw [holds, holds]
    exact subscriptionHolds_same (h.resolve_same rfl hsource)

/-- The verdict of an accepted criterion depends only on what the criterion mentions. Subjects have the
same verdict if they are the same as far as it looks: the record of a scope counts only if something
is asked that is read from the scope, and of the custom fields in it only those at the paths that are
read; the events count only if an event is asked for. An event that is looked at from outside has no
part in the verdict. -/
theorem verdict_of_mentioned (limits : Limits) (json : Json) (criterion : PlacedCriterion)
    (h : ofJson limits json = .ok criterion) :
    (∀ (first second : Subject) (now : Int), first.SameFor criterion second →
      criterion.isMetBy first now = criterion.isMetBy second now) ∧
    (∀ (subject : Subject) (event : Record) (now : Int),
      criterion.holds ⟨subject, some event, now⟩ = criterion.holds ⟨subject, none, now⟩) := by
  have hwell : WellFormed false criterion := (builds_readWithin _).wellFormed
    Source.sound_installation ⟨json, .root limits, rfl, read_of_ofJson h⟩
  refine ⟨?_, ?_⟩
  · intro first second now hsame
    exact holds_same hwell ⟨hsame, fun hlooking => (nomatch hlooking), rfl⟩
  · intro subject event now
    exact holds_same hwell ⟨.refl criterion subject, fun hlooking => (nomatch hlooking), rfl⟩

/-- Of the events, only the kind counts here, and of the installation nothing. -/
theorem verdict_of_mentioned_below_event :
    ∃ criterion : PlacedCriterion, ∃ first second : Subject,
      ofJson .standard (.object [("event", .object [(".kind", .object [("prefix",
        .string "go")])])]) = .ok criterion ∧
      first.SameFor criterion second ∧ first.installation ≠ second.installation ∧
      ∀ now, criterion.isMetBy first now = criterion.isMetBy second now := by
  let event := Record.empty.withProperty "kind" (.string "gold")
  let other := (event.withProperty "amount" (.bool true)).withFieldChanged "amount" .epoch
  let test : PlacedCriterion :=
    .test ⟨.field .event ["kind"], [.key "prefix", .key ".kind", .key "event"], .standard⟩
      (.field .event ["kind"]) (.startsWith "go")
  let criterion : PlacedCriterion := .someEvent ⟨.installation, [.key "event"], .standard⟩ test
  have haccepted : ofJson .standard (.object [("event", .object [(".kind", .object [("prefix",
      .string "go")])])]) = .ok criterion := by rfl
  have hasked : criterion.asked = [.field .event ["kind"]] := rfl
  have hmentions : ∀ scope, criterion.Mentions scope → scope = .event := by
    intro scope h
    obtain ⟨source, hsource, hroot⟩ := h
    rw [hasked, List.mem_singleton] at hsource
    rw [← hroot, hsource]
    rfl
  have hreads : ∀ scope path, criterion.ReadsField scope path → path = ["kind"] := by
    intro scope path h
    obtain ⟨source, hsource, _, hread⟩ := h
    rw [hasked, List.mem_singleton] at hsource
    rw [hsource] at hread
    cases hread
    rfl
  have hrecords : event.SameFor (criterion.ReadsField .event) other := by
    refine ⟨?_, ?_, rfl⟩
    · intro name rest hpath
      cases hreads _ _ hpath
      rfl
    · intro path hpath
      rw [hreads _ _ hpath]
      decide +kernel
  have hsame : Subject.SameFor criterion ⟨none, none, [event]⟩ ⟨some .empty, none, [other]⟩ := by
    refine ⟨?_, ?_, ?_⟩
    · intro h
      cases hmentions _ h
    · intro h
      cases hmentions _ h
    · intro _
      exact .cons (fun _ => .some hrecords) .nil
  refine ⟨criterion, _, _, haccepted, hsame, nofun, fun now => ?_⟩
  exact (verdict_of_mentioned .standard _ criterion haccepted).1 _ _ now hsame

end Criterion

end Audience
