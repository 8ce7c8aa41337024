import Audience.Proofs.Criterion.Semantics

/-!
# Documents mean what their parts mean

The verdict of a document follows from those of its parts, each taken as a document of its own.

* **`conjunction`**, **`disjunction`**: verdicts put together, if there is one in each case.
* **`Criterion.verdict?`**: the verdict of what a value spells under a source.
* **`Criterion.alone`**: the part of an object under one key. **`Criterion.verdict_object`**: an object
  is the conjunction of its parts.
* **`Criterion.meaning_of_parts`**: the meaning of a document wherever it stands, and of each way to
  put documents together.
-/

namespace Audience

/-! ### Verdicts put together -/

/-- The conjunction of verdicts, none of which may be missing. -/
def conjunction (verdicts : List (Option Bool)) : Option Bool :=
  (verdicts.mapM id).map fun given => given.all id

/-- The disjunction of verdicts, none of which may be missing. -/
def disjunction (verdicts : List (Option Bool)) : Option Bool :=
  (verdicts.mapM id).map fun given => given.any id

section

variable {verdict : Option Bool} {verdicts others : List (Option Bool)}

theorem conjunction_cons : conjunction (verdict :: verdicts) =
    verdict.bind fun first => (conjunction verdicts).map (first && ·) := by
  unfold conjunction
  rw [List.mapM_cons]
  cases verdict with
  | none => rfl
  | some first => cases verdicts.mapM id <;> simp

theorem conjunction_singleton : conjunction [verdict] = verdict := by
  rw [conjunction_cons]
  cases verdict with
  | none => rfl
  | some first => simp [conjunction]

theorem conjunction_eq_none_iff : conjunction verdicts = none ↔ none ∈ verdicts := by
  induction verdicts with
  | nil => simp [conjunction]
  | cons verdict rest ih =>
    rw [conjunction_cons, List.mem_cons]
    cases verdict with
    | none => simp
    | some first => simp [ih]

theorem conjunction_eq_true_iff :
    conjunction verdicts = some true ↔ ∀ verdict ∈ verdicts, verdict = some true := by
  induction verdicts with
  | nil => simp [conjunction]
  | cons verdict rest ih =>
    rw [conjunction_cons, List.forall_mem_cons, ← ih]
    cases verdict with
    | none => simp
    | some first =>
      cases first with
      | false => cases conjunction rest <;> simp
      | true => cases conjunction rest <;> simp

/-- A conjunction depends on whether a verdict is missing and on whether all are positive. -/
theorem conjunction_ext (hnone : none ∈ verdicts ↔ none ∈ others)
    (htrue : (∀ verdict ∈ verdicts, verdict = some true) ↔
      ∀ verdict ∈ others, verdict = some true) : conjunction verdicts = conjunction others := by
  rw [← conjunction_eq_none_iff, ← conjunction_eq_none_iff] at hnone
  rw [← conjunction_eq_true_iff, ← conjunction_eq_true_iff] at htrue
  cases h : conjunction verdicts with
  | none => rw [hnone.1 h]
  | some first =>
    cases first with
    | true => rw [htrue.1 h]
    | false =>
      cases h' : conjunction others with
      | none => rw [hnone.2 h'] at h; cases h
      | some other =>
        cases other with
        | false => rfl
        | true => rw [htrue.2 h'] at h; cases h

end

namespace Criterion

variable {members : List (String × Json)} {place child : Place} {situation : Situation}

/-! ### Verdicts of what is read -/

/-- The verdict of what was read, if there was something. -/
def verdictOf (situation : Situation) (outcome : Except Rejection PlacedCriterion) :
    Option Bool :=
  outcome.toOption.map (holds situation)

/-- The verdict of what a value spells under a source. -/
def verdict? (source : Source) (json : Json) (situation : Situation) : Option Bool :=
  (meaning? source json).map (holds situation)

theorem verdictOf_eq (situation : Situation) (outcome : Except Rejection PlacedCriterion) :
    verdictOf situation outcome = (unmarked? outcome).map (holds situation) := by
  rw [verdictOf, unmarked?]
  cases outcome with
  | ok criterion => exact congrArg some (holds_map situation criterion).symm
  | error r => rfl

theorem verdictOf_read_of_inLimits {json : Json} (hlimits : place.InLimits json) :
    verdictOf situation (read json place) = verdict? place.source json situation := by
  rw [verdictOf_eq, unmarked_read_of_inLimits hlimits, verdict?]

theorem verdictOf_read {json : Json} (hroom : place.HasRoom json) :
    verdictOf situation (read json place) = verdict? place.source json situation :=
  verdictOf_read_of_inLimits (.room hroom)

theorem holds_allOf {α : Type} (mark : α) (parts : List (Criterion α)) :
    (allOf mark parts).holds situation = (parts.map (holds situation)).all id := by
  match parts with
  | [] => rfl
  | [part] => simp [allOf]
  | first :: second :: rest => exact allHold_eq_all situation _

/-- The verdicts of what was read, if there was something. -/
def verdictsOf (situation : Situation) (outcome : Except Rejection (List PlacedCriterion)) :
    Option (List Bool) :=
  outcome.toOption.map fun parts => parts.map (holds situation)

theorem verdictsOf_cons {first : Except Rejection PlacedCriterion}
    {rest : Except Rejection (List PlacedCriterion)} :
    verdictsOf situation (do return (← first) :: (← rest)) =
      (do return (← verdictOf situation first) :: (← verdictsOf situation rest)) := by
  cases first with
  | error r => rfl
  | ok criterion => cases rest <;> rfl

/-! ### Objects -/

/-- What a member adds to the verdict of an object. A member that belongs to a boolean `presence` adds
nothing of its own. -/
def entryVerdict (situation : Situation) (place : Place) (members : List (String × Json))
    (entry : String × Json) : Option Bool :=
  if isPresenceSibling entry.1 then if hasBooleanPresence members then some true else none
  else verdictOf situation (member read members place entry.1 entry.2)

theorem conjunction_parts (rest : List (String × Json)) :
    (verdictsOf situation (parts read members place rest)).map (fun given => given.all id) =
      conjunction (rest.map (entryVerdict situation place members)) := by
  induction rest with
  | nil => rfl
  | cons entry rest ih =>
    obtain ⟨key, value⟩ := entry
    rw [List.map_cons, conjunction_cons, ← ih, parts, entryVerdict]
    split
    · split
      · cases verdictsOf situation (parts read members place rest) <;> simp
      · -- a stray member is refused, at its own place or before it is entered
        cases place.key key with
        | ok child => rfl
        | error r => rfl
    · rw [verdictsOf_cons]
      cases verdictOf situation (member read members place key value) with
      | none => rfl
      | some verdict =>
        cases verdictsOf situation (parts read members place rest) <;> simp

/-- The verdict of an object is the conjunction of what its members add. -/
theorem verdictOf_object :
    verdictOf situation (read (.object members) place) =
      conjunction (members.map (entryVerdict situation place members)) := by
  rw [read_eq_level, ← conjunction_parts]
  cases members with
  | nil => rfl
  | cons first rest =>
    show verdictOf situation (do
      return allOf place (← parts read (first :: rest) place (first :: rest))) = _
    cases parts read (first :: rest) place (first :: rest) with
    | error r => rfl
    | ok criteria => exact congrArg some (holds_allOf place criteria)

/-! ### Parts of objects -/

/-- The keys of an object, without those that belong to a boolean `presence`. -/
def partKeys (members : List (String × Json)) : List String :=
  (members.map Prod.fst).filter fun name =>
    !(isPresenceSibling name && hasBooleanPresence members)

/-- Whether a member goes with a key: it stands under the key, or belongs to the boolean `presence`
that stands there. -/
def goesWith (members : List (String × Json)) (name : String) (entry : String × Json) : Bool :=
  entry.1 = name ||
    (name = "presence" && hasBooleanPresence members && isPresenceSibling entry.1)

/-- The part of an object that one key stands for, as an object of its own. -/
def alone (members : List (String × Json)) (name : String) : Json :=
  .object (members.filter (goesWith members name))

theorem mem_partKeys_iff {name : String} : name ∈ partKeys members ↔
    (∃ value, (name, value) ∈ members) ∧
      (isPresenceSibling name = true → hasBooleanPresence members = false) := by
  rw [partKeys, List.mem_filter, List.mem_map]
  constructor
  · intro h
    rcases h with ⟨⟨⟨_, value⟩, hmem, rfl⟩, h⟩
    refine ⟨⟨value, hmem⟩, fun hsibling => ?_⟩
    simpa [hsibling] using h
  · intro h
    obtain ⟨⟨value, hmem⟩, h⟩ := h
    refine ⟨⟨_, hmem, rfl⟩, ?_⟩
    cases hsibling : isPresenceSibling name with
    | false => rfl
    | true => simp [h hsibling]

/-- Of the other members, only those beside a boolean `presence` count, and only for it. -/
theorem member_congr {below : Reader} {others : List (String × Json)} {key : String} {value : Json}
    (h : key = "presence" → ∀ name, isPresenceSibling name = true →
      Json.find? members name = Json.find? others name) :
    member below members place key value = member below others place key value := by
  unfold member
  cases hkeyword : Keyword.ofKey? key with
  | none => rfl
  | some keyword =>
    cases keyword with
    | presence =>
      have hfind := h (Keyword.ofKey?_eq_some_iff.1 hkeyword)
      cases value with
      | bool present =>
        dsimp only [keyworded]
        unfold presenceBeside besideSource
        rw [hfind "source" rfl, hfind "sinceDateComparison" rfl, hfind "elapsedTimeComparison" rfl]
      | _ => rfl
    | _ => rfl

/-- Every member that needs a boolean `presence` has one. -/
def Placed (members : List (String × Json)) : Prop :=
  ∀ entry ∈ members, isPresenceSibling entry.1 = true → hasBooleanPresence members = true

/-- A member adds to its own part what it adds to the whole object. -/
theorem entryVerdict_alone {name : String} {entry : String × Json} (hplaced : Placed members)
    (hname : name ∈ partKeys members) (hmem : entry ∈ members)
    (hgoes : goesWith members name entry = true) :
    entryVerdict situation place (members.filter (goesWith members name)) entry =
      entryVerdict situation place members entry := by
  have hkeys : ∀ other ∈ members, other.1 = name → goesWith members name other = true := by
    intro other _ h
    simp [goesWith, h]
  have hbeside : hasBooleanPresence members = true → name = "presence" →
      hasBooleanPresence (members.filter (goesWith members name)) = true := by
    intro h hpresence
    subst hpresence
    rw [hasBooleanPresence, Json.find?_filter hkeys]
    exact h
  unfold entryVerdict
  split
  · rename_i hsibling
    have hboolean := hplaced entry hmem hsibling
    have hpresence : name = "presence" := by
      simp only [goesWith, Bool.or_eq_true, Bool.and_eq_true, decide_eq_true_eq] at hgoes
      obtain heq | ⟨⟨heq, _⟩, _⟩ := hgoes
      · rw [heq] at hsibling
        have := (mem_partKeys_iff.1 hname).2 hsibling
        rw [hboolean] at this
        cases this
      · exact heq
    rw [if_pos hboolean, if_pos (hbeside hboolean hpresence)]
  · rename_i hsibling
    have hkey : entry.1 = name := by
      simp only [goesWith, Bool.or_eq_true, Bool.and_eq_true, decide_eq_true_eq] at hgoes
      obtain heq | ⟨_, hother⟩ := hgoes
      · exact heq
      · exact absurd hother hsibling
    refine congrArg (verdictOf situation) (member_congr ?_)
    intro hpresence sibling hsibling'
    refine Json.find?_filter fun other hother hotherKey => ?_
    rw [← hotherKey] at hsibling'
    simp [goesWith, ← hkey, hpresence, hplaced other hother hsibling', hsibling']

/-- A member adds nothing to the whole object, or it has a part of its own. -/
theorem entryVerdict_eq_true_or {entry : String × Json} (hplaced : Placed members)
    (hmem : entry ∈ members) :
    entryVerdict situation place members entry = some true ∨
      (entry.1 ∈ partKeys members ∧ goesWith members entry.1 entry = true) := by
  by_cases hsibling : isPresenceSibling entry.1 = true
  · have hboolean := hplaced _ hmem hsibling
    exact .inl (by rw [entryVerdict, if_pos hsibling, if_pos hboolean])
  · refine .inr ⟨mem_partKeys_iff.2 ⟨⟨entry.2, hmem⟩, fun h => absurd h hsibling⟩, ?_⟩
    simp [goesWith]

theorem conjunction_alone_of_placed (hplaced : Placed members) :
    conjunction ((partKeys members).map fun name =>
        verdictOf situation (read (alone members name) place)) =
      conjunction (members.map (entryVerdict situation place members)) := by
  have hpart : ∀ name ∈ partKeys members,
      verdictOf situation (read (alone members name) place) =
        conjunction ((members.filter (goesWith members name)).map
          (entryVerdict situation place members)) := by
    intro name hname
    rw [alone, verdictOf_object]
    refine congrArg conjunction (List.map_congr_left fun entry hentry => ?_)
    rw [List.mem_filter] at hentry
    exact entryVerdict_alone hplaced hname hentry.1 hentry.2
  rw [List.map_congr_left hpart]
  refine conjunction_ext ?_ ?_
  · simp only [List.mem_map, conjunction_eq_none_iff, List.mem_filter]
    constructor
    · intro h
      obtain ⟨name, _, entry, ⟨hmem, _⟩, hentry⟩ := h
      exact ⟨entry, hmem, hentry⟩
    · intro h
      obtain ⟨entry, hmem, hentry⟩ := h
      obtain htrue | ⟨hkey, hgoes⟩ := entryVerdict_eq_true_or hplaced hmem
      · rw [htrue] at hentry
        cases hentry
      · exact ⟨entry.1, hkey, entry, ⟨hmem, hgoes⟩, hentry⟩
  · simp only [List.forall_mem_map, conjunction_eq_true_iff, List.mem_filter]
    constructor
    · intro h entry hmem
      obtain htrue | ⟨hkey, hgoes⟩ := entryVerdict_eq_true_or hplaced hmem
      · exact htrue
      · exact h entry.1 hkey entry ⟨hmem, hgoes⟩
    · intro h name _ entry hentry
      exact h entry hentry.1

/-- A member that needs a boolean `presence` and has none is refused alone, too. -/
theorem conjunction_alone_of_stray {entry : String × Json} (hmem : entry ∈ members)
    (hsibling : isPresenceSibling entry.1 = true) (hboolean : hasBooleanPresence members = false) :
    conjunction ((partKeys members).map fun name =>
        verdictOf situation (read (alone members name) place)) = none := by
  have hnone : hasBooleanPresence (members.filter (goesWith members entry.1)) = false := by
    rw [← Bool.not_eq_true, hasBooleanPresence_iff]
    intro h
    obtain ⟨present, hfind⟩ := h
    have hgoes := (List.mem_filter.1 (Json.mem_of_find? hfind)).2
    simp only [goesWith, hboolean, Bool.and_false, Bool.false_and, Bool.or_false,
      decide_eq_true_eq] at hgoes
    rw [← hgoes] at hsibling
    cases hsibling
  rw [conjunction_eq_none_iff, List.mem_map]
  refine ⟨entry.1, mem_partKeys_iff.2 ⟨⟨entry.2, hmem⟩, fun _ => hboolean⟩, ?_⟩
  rw [alone, verdictOf_object, conjunction_eq_none_iff, List.mem_map]
  refine ⟨entry, List.mem_filter.2 ⟨hmem, by simp [goesWith]⟩, ?_⟩
  rw [entryVerdict, if_pos hsibling, hnone]
  rfl

/-- An object is the conjunction of its parts. -/
theorem conjunction_alone : conjunction ((partKeys members).map fun name =>
      verdictOf situation (read (alone members name) place)) =
    verdictOf situation (read (.object members) place) := by
  rw [verdictOf_object]
  by_cases hplaced : Placed members
  · exact conjunction_alone_of_placed hplaced
  · simp only [Placed, not_forall, Bool.not_eq_true] at hplaced
    obtain ⟨entry, hmem, hsibling, hboolean⟩ := hplaced
    rw [conjunction_alone_of_stray hmem hsibling hboolean, eq_comm, conjunction_eq_none_iff,
      List.mem_map]
    refine ⟨entry, hmem, ?_⟩
    rw [entryVerdict, if_pos hsibling, hboolean]
    rfl

/-! ### What stands under one keyword -/

/-- An object with one member is read as what stands under its keyword. -/
theorem verdictOf_single {keyword : Keyword} {value : Json}
    (hchild : place.key keyword.key = .ok child) :
    verdictOf situation (read (.object [(keyword.key, value)]) place) =
      verdictOf situation
        (keyworded read [(keyword.key, value)] place child keyword.key keyword value) := by
  have hsibling : ¬ isPresenceSibling keyword.key = true := by
    rw [isPresenceSibling_iff]
    exact key_not_mem_siblingKeys keyword
  rw [verdictOf_object, List.map_singleton, conjunction_singleton, entryVerdict, if_neg hsibling,
    member, hchild, Keyword.ofKey?_key]
  rfl

theorem verdictsOf_items {values : List Json} (hroom : place.HasRoom (.array values)) :
    ∀ (rest : List Json) (start : Nat), (∀ item ∈ rest, item ∈ values) →
      verdictsOf situation (items read place start rest) =
        (rest.map fun item => verdict? place.source item situation).mapM id := by
  intro rest
  induction rest with
  | nil =>
    intro start _
    rfl
  | cons item rest ih =>
    intro start hrest
    obtain ⟨child, hchild, hsource, hinner⟩ := hroom.index (hrest item List.mem_cons_self) start
    have htail := ih (start + 1) fun other h => hrest other (List.mem_cons_of_mem _ h)
    have hhead : verdictOf situation (read item child) = verdict? place.source item situation := by
      rw [verdictOf_read hinner, hsource]
    rw [items, hchild, List.map_cons, List.mapM_cons, ← htail, id, ← hhead]
    show verdictsOf situation (do
      return (← read item child) :: (← items read place (start + 1) rest)) = _
    exact verdictsOf_cons

theorem verdictsOf_criteriaList {values : List Json} (key : String)
    (hroom : place.HasRoom (.array values)) :
    verdictsOf situation (criteriaList read place key (.array values)) =
      (values.map fun item => verdict? place.source item situation).mapM id :=
  verdictsOf_items hroom values 0 fun _ h => h

/-- The place of the only member of an object, and the verdict of the object from there. -/
theorem exists_child (source : Source) (keyword : Keyword) (value : Json) :
    ∃ place child : Place, place.source = source ∧ child.source = source ∧
      child.HasRoom value ∧ ∀ situation,
        verdict? source (.object [(keyword.key, value)]) situation =
          verdictOf situation
            (keyworded read [(keyword.key, value)] place child keyword.key keyword value) := by
  have hroom := hasRoom_roomFor source (.object [(keyword.key, value)])
  obtain ⟨child, hchild, hsource, hinner⟩ := hroom.key List.mem_cons_self
  refine ⟨roomFor source (.object [(keyword.key, value)]), child, rfl, hsource, hinner, ?_⟩
  intro situation
  rw [← verdictOf_single hchild, verdictOf_read hroom]
  rfl

theorem verdict_and (source : Source) (values : List Json) :
    verdict? source (.object [("and", .array values)]) situation =
      conjunction (values.map fun item => verdict? source item situation) := by
  obtain ⟨place, child, -, hsource, hroom, hverdict⟩ := exists_child source .and (.array values)
  refine (hverdict situation).trans ?_
  rw [conjunction, ← hsource, ← verdictsOf_criteriaList "and" hroom]
  show verdictOf situation (do return and child (← criteriaList read child "and" (.array values))) = _
  cases criteriaList read child "and" (.array values) with
  | ok parts => exact congrArg some (allHold_eq_all situation parts)
  | error r => rfl

theorem verdict_or (source : Source) (values : List Json) :
    verdict? source (.object [("or", .array values)]) situation =
      disjunction (values.map fun item => verdict? source item situation) := by
  obtain ⟨place, child, -, hsource, hroom, hverdict⟩ := exists_child source .or (.array values)
  refine (hverdict situation).trans ?_
  rw [disjunction, ← hsource, ← verdictsOf_criteriaList "or" hroom]
  show verdictOf situation (do return or child (← criteriaList read child "or" (.array values))) = _
  cases criteriaList read child "or" (.array values) with
  | ok parts => exact congrArg some (someHolds_eq_any situation parts)
  | error r => rfl

theorem verdict_not (source : Source) (value : Json) :
    verdict? source (.object [("not", value)]) situation =
      (verdict? source value situation).map fun verdict => !verdict := by
  obtain ⟨place, child, -, hsource, hroom, hverdict⟩ := exists_child source .not value
  refine (hverdict situation).trans ?_
  rw [← hsource, ← verdictOf_read hroom]
  show verdictOf situation (do return not child (← read value child)) = _
  cases read value child with
  | ok inner => rfl
  | error r => rfl

/-- What stands under a scope that may be named where a scope is in force. -/
theorem verdictOf_scope {source : Source} {key : String} {value : Json} (scope : Source)
    (hplace : place.source = source) (hroom : child.HasRoom value) :
    verdictOf situation (do needRoot place child key; read value (child.withSource scope)) =
      if source.isRoot then verdict? scope value situation else none := by
  rw [needRoot, hplace]
  split
  · exact verdictOf_read (hroom.withSource scope)
  · rfl

theorem verdict_installation (source : Source) (value : Json) :
    verdict? source (.object [("installation", value)]) situation =
      if source.isRoot then verdict? .installation value situation else none := by
  obtain ⟨place, child, hplace, -, hroom, hverdict⟩ := exists_child source .installation value
  refine (hverdict situation).trans ?_
  exact verdictOf_scope .installation hplace hroom

theorem verdict_user (source : Source) (value : Json) :
    verdict? source (.object [("user", value)]) situation =
      if source.isRoot then verdict? .user value situation else none := by
  obtain ⟨place, child, hplace, -, hroom, hverdict⟩ := exists_child source .user value
  refine (hverdict situation).trans ?_
  exact verdictOf_scope .user hplace hroom

theorem verdict_event (source : Source) (value : Json) :
    verdict? source (.object [("event", value)]) situation =
      if source.isRoot then (meaning? .event value).map fun criterion =>
        situation.subject.events.any fun event =>
          criterion.holds ⟨situation.subject, some event, situation.now⟩
      else none := by
  obtain ⟨place, child, hplace, -, hroom, hverdict⟩ := exists_child source .event value
  refine (hverdict situation).trans ?_
  rw [keyworded, needRoot, hplace]
  split
  · have hmeaning : unmarked? (read value (child.withSource .event)) = meaning? .event value :=
      unmarked_read (hroom.withSource .event)
    rw [← hmeaning]
    show verdictOf situation (do
      return someEvent child (← read value (child.withSource .event))) = _
    cases read value (child.withSource .event) with
    | ok inner =>
      refine congrArg some ?_
      show situation.subject.events.any (fun event => inner.holds (situation.withEvent event)) = _
      congr 1
      funext event
      exact (holds_map _ inner).symm
    | error r => rfl
  · rfl

/-- The verdict of an object is the conjunction of those of its parts, each an object of its own. -/
theorem verdict_object (source : Source) (members : List (String × Json)) :
    verdict? source (.object members) situation =
      conjunction ((partKeys members).map fun name =>
        verdict? source (alone members name) situation) := by
  have hroom := hasRoom_roomFor source (.object members)
  have hpart : ∀ name, verdictOf situation (read (alone members name)
      (roomFor source (.object members))) = verdict? source (alone members name) situation := by
    intro name
    have hle := Json.membersHeight_filter_le (goesWith members name) members
    refine verdictOf_read ?_
    unfold Place.HasRoom alone at *
    rw [Json.height] at *
    omega
  have hwhole : verdictOf situation (read (.object members) (roomFor source (.object members))) =
      verdict? source (.object members) situation := verdictOf_read hroom
  rw [← hwhole, ← conjunction_alone]
  simp only [hpart]

/-! ### The meaning of documents -/

/-- Documents mean what their parts mean, wherever they stand. What is below the first level is read
in the same way. The tree of a document without its marks, and so its verdict, are those of the source
in force, at every place where the limits do not cut its reading short. An object is the conjunction of
its parts, refused if one of them is. Lists, negations and scopes put verdicts together; under an event,
the event replaces any other. -/
theorem meaning_of_parts :
    (∀ (json : Json) (place : Place), read json place = level read json place) ∧
    (∀ (json : Json) (place : Place), place.InLimits json →
      (read json place).toOption.map (Criterion.map fun _ => ()) = meaning? place.source json ∧
        ∀ situation, (read json place).toOption.map (holds situation) =
          verdict? place.source json situation) ∧
    (∀ source members situation, verdict? source (.object members) situation =
      conjunction ((partKeys members).map fun name =>
        verdict? source (alone members name) situation)) ∧
    (∀ source situation, verdict? source (.object []) situation = some true) ∧
    (∀ source values situation, verdict? source (.object [("and", .array values)]) situation =
      conjunction (values.map fun item => verdict? source item situation)) ∧
    (∀ source values situation, verdict? source (.object [("or", .array values)]) situation =
      disjunction (values.map fun item => verdict? source item situation)) ∧
    (∀ source value situation, verdict? source (.object [("not", value)]) situation =
      (verdict? source value situation).map fun verdict => !verdict) ∧
    (∀ source value situation, verdict? source (.object [("installation", value)]) situation =
      if source.isRoot then verdict? .installation value situation else none) ∧
    (∀ source value situation, verdict? source (.object [("user", value)]) situation =
      if source.isRoot then verdict? .user value situation else none) ∧
    (∀ source value situation, verdict? source (.object [("event", value)]) situation =
      if source.isRoot then (meaning? .event value).map fun criterion =>
        situation.subject.events.any fun event =>
          criterion.holds ⟨situation.subject, some event, situation.now⟩
      else none) := by
  refine ⟨?_, ?_, ?_, ?_, ?_, ?_, ?_, ?_, ?_, ?_⟩
  · intro json place
    exact read_eq_level json place
  · intro json place hlimits
    exact ⟨unmarked_read_of_inLimits hlimits,
      fun situation => verdictOf_read_of_inLimits hlimits⟩
  · intro source members situation
    exact verdict_object source members
  · intro source situation
    exact verdict_object source []
  · intro source values situation
    exact verdict_and source values
  · intro source values situation
    exact verdict_or source values
  · intro source value situation
    exact verdict_not source value
  · intro source value situation
    exact verdict_installation source value
  · intro source value situation
    exact verdict_user source value
  · intro source value situation
    exact verdict_event source value

/-- A negation two steps down, under the user. -/
theorem meaning_of_negation_below_list :
    (Place.mk .user [.index 3, .key "and"] ⟨5, 100⟩).InLimits
      (.object [("not", .object [(".plan", .object [("prefix", .string "go")])])]) ∧
    ∀ situation : Situation, (read (.object [("not", .object [(".plan", .object [("prefix",
        .string "go")])])]) (Place.mk .user [.index 3, .key "and"] ⟨5, 100⟩)).toOption.map
          (holds situation) =
      (verdict? .user (.object [(".plan", .object [("prefix", .string "go")])]) situation).map
        fun verdict => !verdict := by
  obtain ⟨-, hread, -, -, -, -, hnot, -⟩ := meaning_of_parts
  have hroom : (Place.mk .user [.index 3, .key "and"] ⟨5, 100⟩).HasRoom
      (.object [("not", .object [(".plan", .object [("prefix", .string "go")])])]) := by
    rw [Place.HasRoom]
    decide
  refine ⟨.room hroom, fun situation => ?_⟩
  rw [(hread _ _ (.room hroom)).2 situation]
  exact hnot _ _ situation

end Criterion

end Audience
