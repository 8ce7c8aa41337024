import Audience.Proofs.Criterion.Semantics
import Audience.Proofs.Text.Segments

/-!
# Two ways to write a presence

A presence is written with its comparisons beside it or within it, and the source it is about as a
dotted path beside it or as the keys of the objects around it. The rules of one level turn each of
these forms into the same presence of the same source.

* **`PresenceForm.beside`**, **`PresenceForm.within`**: the comparisons beside and within.
* **`PresenceForm.nested`**: a document inside the objects that a dotted path stands for.
* **`Criterion.presence_forms_agree`**: the forms are accepted together and give the same tree.
-/

namespace Audience

namespace PresenceForm

/-- A member that may be missing. -/
def given (key : String) (value : Option Json) : List (String × Json) :=
  (value.map (Prod.mk key)).toList

/-- The members of a presence with its comparisons, and the path of its source, beside it. -/
def besideMembers (present : Bool) (since elapsed : Option Json) (path : Option String) :
    List (String × Json) :=
  given "elapsedTimeComparison" elapsed ++ ("presence", .bool present) ::
    (given "sinceDateComparison" since ++ given "source" (path.map .string))

/-- A presence with its comparisons, and the path of its source, beside it. -/
def beside (present : Bool) (since elapsed : Option Json) (path : Option String) : Json :=
  .object (besideMembers present since elapsed path)

/-- The members below a presence with its comparisons within. -/
def withinMembers (present : Bool) (since elapsed : Option Json) : List (String × Json) :=
  given "elapsedTime" elapsed ++ ("present", .bool present) :: given "sinceDate" since

/-- A presence with its comparisons within. -/
def within (present : Bool) (since elapsed : Option Json) : Json :=
  .object [("presence", .object (withinMembers present since elapsed))]

/-- A document under the key of the last activity, or of a custom field. -/
def nestedBelow (rest : String) (document : Json) : Json :=
  if rest = "lastActivityDate" then .object [("lastActivityDate", document)]
  else .object [("." ++ rest, document)]

/-- A document inside the objects that a path stands for: one for the root that it starts with, if it
does, and one for what is left of it, if there is something. -/
def nested (path : String) (document : Json) : Json :=
  let first := Text.front '.' path
  if first = "installation" ∨ first = "user" then
    .object [(first, (Text.back? '.' path).elim document fun rest => nestedBelow rest document)]
  else nestedBelow path document

end PresenceForm

open PresenceForm

/-! ### Members that may be missing -/

namespace PresenceForm

variable {key name : String} {value : Option Json}

theorem find?_given : Json.find? (given name value) key = if name = key then value else none := by
  cases value with
  | none => exact (ite_self _).symm
  | some value => rfl

theorem parts?_given {below : Semantics} {source : Source} {members rest : List (String × Json)}
    (hkey : Criterion.isPresenceSibling key) (hpresence : Criterion.hasBooleanPresence members) :
    Semantics.parts? below source members (given key value ++ rest) =
      Semantics.parts? below source members rest := by
  cases value with
  | none => rfl
  | some value =>
    show Semantics.parts? below source members ((key, value) :: rest) = _
    rw [Semantics.parts?, if_pos hkey, if_pos hpresence]

end PresenceForm

namespace Criterion

variable {source : Source} {document : Json} {key : String}

/-! ### Presences -/

/-- Beside a boolean presence, its comparisons and its source add nothing of their own. -/
theorem parts?_besideMembers {below : Semantics} {present : Bool} {since elapsed : Option Json}
    {path : Option String} :
    Semantics.parts? below source (besideMembers present since elapsed path)
        (besideMembers present since elapsed path) =
      ((Semantics.besideSource? source (besideMembers present since elapsed path)).bind
        fun about => below.presence? about present since elapsed).map fun first => [first] := by
  generalize hmembers : besideMembers present since elapsed path = members
  have hpresence : Json.find? members "presence" = some (.bool present) := by
    simp [← hmembers, besideMembers, Json.find?_append, find?_given, Json.find?]
  have hsince : Json.find? members "sinceDateComparison" = since := by
    simp [← hmembers, besideMembers, Json.find?_append, find?_given, Json.find?]
  have helapsed : Json.find? members "elapsedTimeComparison" = elapsed := by
    simp [← hmembers, besideMembers, Json.find?_append, find?_given, Json.find?]
  have hboolean : hasBooleanPresence members := by rw [hasBooleanPresence, hpresence]
  have hrest : Semantics.parts? below source members
      (given "sinceDateComparison" since ++ given "source" (path.map .string)) = some [] := by
    rw [parts?_given rfl hboolean, ← List.append_nil (given "source" _),
      parts?_given rfl hboolean, Semantics.parts?]
  have hkey : Keyword.ofKey? "presence" = some .presence := rfl
  rw [besideMembers] at hmembers
  nth_rewrite 2 [← hmembers]
  rw [parts?_given rfl hboolean, parts?_keyword hkey, hrest,
    Semantics.keyworded?, hsince, helapsed, Option.map_eq_bind]
  rfl

theorem meaning_beside (present : Bool) (since elapsed : Option Json) (path : Option String) :
    meaning? source (beside present since elapsed path) =
      (path.elim (some source) (Semantics.source? source)).bind fun about =>
        Semantics.presence? meaning? about present since elapsed := by
  have hlevel : Semantics.level meaning? source (beside present since elapsed path) =
      (Semantics.parts? meaning? source (besideMembers present since elapsed path)
        (besideMembers present since elapsed path)).map (allOf ()) := by
    cases elapsed <;> rfl
  have hsource : Semantics.besideSource? source (besideMembers present since elapsed path) =
      path.elim (some source) (Semantics.source? source) := by
    have hfind : Json.find? (besideMembers present since elapsed path) "source" =
        path.map .string := by
      simp [besideMembers, Json.find?_append, find?_given, Json.find?]
    rw [Semantics.besideSource?, hfind]
    cases path <;> rfl
  rw [meaning_eq_level, hlevel, parts?_besideMembers, hsource, Option.map_map]
  exact Option.map_id'

theorem foldlM_elapsedTime {below : Semantics} (elapsed : Option Json) :
    (given "elapsedTime" elapsed).foldlM (below.presenceMember? source) ⟨none, none, none⟩ =
      (below.given? (.elapsedTime source) elapsed).map fun elapsed => ⟨none, none, elapsed⟩ := by
  cases elapsed with
  | none => rfl
  | some json =>
    show ((below (.elapsedTime source) json).map _).bind _ = ((below _ json).map some).map _
    cases below (.elapsedTime source) json <;> rfl

theorem foldlM_sinceDate {below : Semantics} (since : Option Json) (present : Bool)
    (elapsed : Option (Criterion Unit)) :
    (given "sinceDate" since).foldlM (below.presenceMember? source)
        ⟨some present, none, elapsed⟩ =
      (below.given? (.sinceDate source) since).map fun since =>
        ⟨some present, since, elapsed⟩ := by
  cases since with
  | none => rfl
  | some json =>
    show ((below (.sinceDate source) json).map _).bind _ = ((below _ json).map some).map _
    cases below (.sinceDate source) json <;> rfl

theorem meaning_within (present : Bool) (since elapsed : Option Json) :
    meaning? source (within present since elapsed) =
      Semantics.presence? meaning? source present since elapsed := by
  have hkey : Keyword.ofKey? "presence" = some .presence := rfl
  rw [within, meaning_keyword hkey]
  show Semantics.presenceWithin? meaning? source (withinMembers present since elapsed) = _
  rw [Semantics.presenceWithin?, withinMembers, List.foldlM_append, foldlM_elapsedTime,
    Semantics.presence?]
  cases Semantics.given? meaning? (.elapsedTime source) elapsed with
  | none => cases Semantics.given? meaning? (.sinceDate source) since <;> rfl
  | some elapsed =>
    show Option.bind (List.foldlM _ (Semantics.PresenceParts.mk (some present) none elapsed)
      (given "sinceDate" since)) _ = _
    rw [foldlM_sinceDate]
    cases Semantics.given? meaning? (.sinceDate source) since <;> rfl

/-! ### Sources -/

/-- The segments of another text than the key of the last activity name a field. -/
theorem sourceBelow_segments {rest : String} (h : rest ≠ "lastActivityDate") :
    Semantics.sourceBelow? source (Text.segments '.' rest) =
      Semantics.fieldBelow? source (Text.segments '.' rest) := by
  have hactivity : Text.segments '.' rest ≠ ["lastActivityDate"] :=
    fun heq => h (Text.eq_of_segments_eq_singleton heq).symm
  cases hsegments : Text.segments '.' rest with
  | nil => exact absurd hsegments (Text.segments_ne_nil rest)
  | cons first others =>
    rw [hsegments] at hactivity
    exact if_neg hactivity

/-- A document under the key of the last activity or of a field is about what the text denotes below
the source in force. -/
theorem meaning_nestedBelow (rest : String) :
    meaning? source (nestedBelow rest document) =
      ((Semantics.fieldPath? rest).bind (Semantics.sourceBelow? source)).bind fun about =>
        meaning? about document := by
  by_cases hactivity : rest = "lastActivityDate"
  · have hsegments : Semantics.fieldPath? "lastActivityDate" = some ["lastActivityDate"] := by
      decide
    have hkey : Keyword.ofKey? "lastActivityDate" = some .lastActivity := rfl
    rw [nestedBelow, if_pos hactivity, meaning_keyword hkey, hactivity,
      hsegments, Semantics.keyworded?]
    show _ = ((if source.isOwner then some (Source.lastActivity source) else none).bind _)
    split <;> rfl
  · have hkey : Keyword.ofKey? ("." ++ rest) = some (.field rest) :=
      Keyword.ofKey?_key (.field rest)
    rw [nestedBelow, if_neg hactivity, meaning_keyword hkey, Semantics.keyworded?,
      Option.bind_assoc, Semantics.fieldPath?]
    split
    · rfl
    · show (Semantics.fieldBelow? source _).bind _ = (Semantics.sourceBelow? source _).bind _
      rw [sourceBelow_segments hactivity]

theorem fieldPath?_of_cons {path first rest : String} (hfirst : first.isEmpty = false)
    (h : Text.segments '.' path = first :: Text.segments '.' rest) :
    Semantics.fieldPath? path = (Semantics.fieldPath? rest).map (first :: ·) := by
  rw [Semantics.fieldPath?, Semantics.fieldPath?, h, List.any_cons, hfirst, Bool.false_or]
  split <;> rfl

/-- A path that starts with the name of an installation or user leads there or below there. -/
theorem source?_of_owner {base : Source} {path : String} (hbase : base.isOwner)
    (hfront : Text.front '.' path = base.name) :
    Semantics.source? source path =
      (Text.back? '.' path).elim (some base) fun rest =>
        (Semantics.fieldPath? rest).bind (Semantics.sourceBelow? base) := by
  have hsegments : Text.segments '.' path = _ := Text.segments_eq_cons path
  rw [hfront] at hsegments
  cases hback : Text.back? '.' path with
  | none =>
    rw [hback] at hsegments
    cases base with
    | installation | user =>
      rw [Semantics.source?, Semantics.fieldPath?, hsegments]
      rfl
    | _ => cases hbase
  | some rest =>
    rw [hback] at hsegments
    cases base with
    | installation | user =>
      rw [Semantics.source?, fieldPath?_of_cons rfl hsegments, Option.bind_map]
      rfl
    | _ => cases hbase

/-- Any other path leads below the source in force. -/
theorem source?_of_other {path : String} (hinstallation : Text.front '.' path ≠ "installation")
    (huser : Text.front '.' path ≠ "user") :
    Semantics.source? source path =
      (Semantics.fieldPath? path).bind (Semantics.sourceBelow? source) := by
  rw [Semantics.source?, Semantics.fieldPath?]
  split
  · rfl
  · rw [Option.bind_some, Option.bind_some, Text.segments_eq_cons]
    refine sourceOf?_of_other (fun rest heq => ?_) fun rest heq => ?_
    · exact hinstallation (List.cons.inj heq).1
    · exact huser (List.cons.inj heq).1

theorem meaning_owner {base : Source} (hroot : source.isRoot) (hbase : base.isOwner) :
    meaning? source (.object [(base.name, document)]) = meaning? base document := by
  cases base with
  | installation =>
    show meaning? source (.object [("installation", document)]) = _
    have hkey : Keyword.ofKey? "installation" = some .installation := rfl
    rw [meaning_keyword hkey]
    exact if_pos hroot
  | user =>
    show meaning? source (.object [("user", document)]) = _
    have hkey : Keyword.ofKey? "user" = some .user := rfl
    rw [meaning_keyword hkey]
    exact if_pos hroot
  | _ => cases hbase

/-- A document inside the objects that a path stands for is about the source of the path. -/
theorem meaning_nested (hroot : source.isRoot) (path : String) :
    meaning? source (nested path document) =
      (Semantics.source? source path).bind fun about => meaning? about document := by
  have howner : ∀ base : Source, base.isOwner → Text.front '.' path = base.name →
      meaning? source (.object [(base.name, (Text.back? '.' path).elim document fun rest =>
          nestedBelow rest document)]) =
        (Semantics.source? source path).bind fun about => meaning? about document := by
    intro base hbase hfront
    rw [meaning_owner hroot hbase, source?_of_owner hbase hfront]
    cases Text.back? '.' path with
    | none => rfl
    | some rest => exact meaning_nestedBelow rest
  by_cases hinstallation : Text.front '.' path = "installation"
  · rw [nested, if_pos (.inl hinstallation), hinstallation]
    exact howner .installation rfl hinstallation
  · by_cases huser : Text.front '.' path = "user"
    · rw [nested, if_pos (.inr huser), huser]
      exact howner .user rfl huser
    · rw [nested, if_neg (not_or.2 ⟨hinstallation, huser⟩), meaning_nestedBelow,
        source?_of_other hinstallation huser]

/-! ### The forms -/

/-- With its comparisons beside it or within it, a presence is accepted or not, and gives the same
tree but for the marks. So it is with its source as a path or as the objects around it, where a scope
is in force. -/
theorem presence_forms_agree (place : Place) (present : Bool) (since elapsed : Option Json) :
    (place.InLimits (beside present since elapsed none) →
      place.InLimits (within present since elapsed) →
      unmarked? (read (beside present since elapsed none) place) =
        unmarked? (read (within present since elapsed) place)) ∧
    ∀ path : String, place.source.isRoot →
      place.InLimits (beside present since elapsed (some path)) →
      place.InLimits (nested path (beside present since elapsed none)) →
      unmarked? (read (beside present since elapsed (some path)) place) =
        unmarked? (read (nested path (beside present since elapsed none)) place) := by
  constructor
  · intro hbeside hwithin
    rw [unmarked_read_of_inLimits hbeside, unmarked_read_of_inLimits hwithin, meaning_beside,
      meaning_within]
    rfl
  · intro path hroot hbeside hnested
    rw [unmarked_read_of_inLimits hbeside, unmarked_read_of_inLimits hnested, meaning_beside,
      meaning_nested hroot]
    congr 1
    funext about
    exact (meaning_beside present since elapsed none).symm

/-- The last activity of a user that is a month old or more, in each of the forms. -/
theorem presence_forms_agree_last_activity :
    (unmarked? (read (beside true none (some (.object [("gte", .string "P30D")])) none)
        (.root .standard)) =
      unmarked? (read (within true none (some (.object [("gte", .string "P30D")])))
        (.root .standard))) ∧
    unmarked? (read (beside true none (some (.object [("gte", .string "P30D")]))
        (some "user.lastActivityDate")) (.root .standard)) =
      unmarked? (read (nested "user.lastActivityDate"
        (beside true none (some (.object [("gte", .string "P30D")])) none)) (.root .standard)) := by
  have h := presence_forms_agree (.root .standard) true none
    (some (.object [("gte", .string "P30D")]))
  refine ⟨h.1 (.room ?_) (.room ?_), h.2 "user.lastActivityDate" rfl (.room ?_) (.room ?_)⟩
  all_goals
    unfold Place.HasRoom
    decide +kernel

end Criterion

end Audience
