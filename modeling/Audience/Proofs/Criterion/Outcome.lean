import Audience.Proofs.Criterion.Grammar
import Audience.Proofs.Outcome
import Mathlib.Logic.Basic

/-!
# When the parts of a reading succeed

What the small steps of a reading give when they give something: the conditions on the source in
force, sources and strings. The grammar says what they take in.

* **`Criterion.needValue_eq_ok_iff`** and the like: conditions.
* **`Criterion.sourceOfPath_eq_ok_iff`**: the source of a path is the one that the path denotes.
* **`Keyword.ofKey?_eq_some_iff`**: each keyword has one key.
* **`Criterion.read_of_ofJson`**: an accepted document is read from its root.
-/

namespace Audience

/-! ### Keywords -/

theorem Operator.eq_key_of_ofKey? {key : String} {operator : Operator}
    (h : ofKey? key = some operator) : key = operator.key := by
  rw [ofKey?] at h
  iterate 4
    split at h
    · rename_i hkey
      cases h
      exact hkey
  cases h

namespace Keyword

theorem toList_key_field (path : String) : (field path).key.toList = '.' :: path.toList := by
  show ("." ++ path).toList = _
  rw [String.toList_append]
  rfl

theorem eq_key_of_ofWord? {word : String} {keyword : Keyword} (h : ofWord? word = some keyword) :
    word = keyword.key := by
  rw [ofWord?] at h
  -- one word after the other
  iterate 15
    obtain ⟨hword, hkeyword⟩ | ⟨_, h⟩ := ite_eq_iff.1 h
    · cases hkeyword
      exact hword
  rw [Option.map_eq_some_iff] at h
  obtain ⟨operator, hoperator, rfl⟩ := h
  exact Operator.eq_key_of_ofKey? hoperator

theorem ofKey?_key (keyword : Keyword) : ofKey? keyword.key = some keyword := by
  cases keyword with
  | field path =>
    rw [ofKey?]
    rw [toList_key_field]
    show some (field (String.ofList path.toList)) = some (field path)
    rw [String.ofList_toList]
  | order operator => cases operator <;> rfl
  | _ => rfl

theorem ofKey?_eq_some_iff {key : String} {keyword : Keyword} :
    ofKey? key = some keyword ↔ key = keyword.key := by
  constructor
  · intro h
    rw [ofKey?] at h
    split at h
    · rename_i path hkey
      cases h
      rw [← String.toList_inj, toList_key_field, hkey, String.toList_ofList]
    · exact eq_key_of_ofWord? h
  · intro heq
    subst heq
    exact ofKey?_key keyword

end Keyword

namespace Criterion

variable {place child : Place} {members : List (String × Json)} {key : String} {value : Json}
variable {u : Unit}

/-! ### Keys beside `presence` -/

theorem isPresenceSibling_iff : isPresenceSibling key = true ↔ key ∈ Grammar.siblingKeys := by
  simp [isPresenceSibling, Grammar.siblingKeys, or_assoc]

theorem key_not_mem_siblingKeys (keyword : Keyword) : keyword.key ∉ Grammar.siblingKeys := by
  intro hmem
  have hkeyword : Keyword.ofKey? keyword.key = some keyword := Keyword.ofKey?_key keyword
  simp only [Grammar.siblingKeys, List.mem_cons, List.not_mem_nil, or_false] at hmem
  obtain h | h | h := hmem
  all_goals
    rw [h] at hkeyword
    cases hkeyword

theorem hasBooleanPresence_iff : hasBooleanPresence members = true ↔
    ∃ present, Json.find? members "presence" = some (.bool present) := by
  rw [hasBooleanPresence]
  split
  · rename_i present hfind
    exact iff_of_true rfl ⟨present, hfind⟩
  · rename_i hne
    refine iff_of_false Bool.false_ne_true ?_
    intro h
    obtain ⟨present, hfind⟩ := h
    exact hne present hfind

/-! ### Conditions on the source in force -/

theorem needRoot_eq_ok_iff : needRoot place child key = .ok u ↔ place.source.isRoot = true := by
  rw [needRoot]
  by_cases h : place.source.isRoot = true
  · simp [h]
  · simp [h, reject_ne_ok]

theorem needOwner_eq_ok_iff : needOwner place child key = .ok u ↔ place.source.isOwner = true := by
  rw [needOwner]
  by_cases h : place.source.isOwner = true
  · simp [h]
  · simp [h, reject_ne_ok]

theorem needValue_eq_ok_iff : needValue place child key = .ok u ↔ place.source.isRoot = false := by
  rw [needValue]
  by_cases h : place.source.isRoot = true
  · simp [h, reject_ne_ok]
  · simp [h]

/-! ### Strings and statuses -/

theorem eq_name_of_ofName? {name : String} {status : SubscriptionStatus}
    (h : SubscriptionStatus.ofName? name = some status) : name = status.name := by
  rw [SubscriptionStatus.ofName?] at h
  iterate 3
    split at h
    · rename_i hname
      cases h
      exact hname
  cases h

theorem stringOf_eq_ok_iff {text : String} :
    stringOf child key value = .ok text ↔ value = .string text := by
  cases value <;> simp [stringOf, reject_ne_ok]

theorem statusOf_eq_ok_iff {status : SubscriptionStatus} :
    statusOf child key value = .ok status ↔ value = .string status.name := by
  rw [statusOf, bind_eq_ok_iff]
  constructor
  · intro h
    obtain ⟨name, hname, h⟩ := h
    rw [stringOf_eq_ok_iff] at hname
    rw [hname]
    split at h
    · rename_i found hfound
      rw [pure_eq_ok_iff] at h
      rw [← h, eq_name_of_ofName? hfound]
    · exact absurd h (reject_ne_ok _ _ _)
  · intro h
    refine ⟨status.name, stringOf_eq_ok_iff.2 h, ?_⟩
    rw [SubscriptionStatus.ofName?_name]
    rfl

/-! ### Sources -/

theorem fieldPath_eq_ok_iff {path : String} {segments : List String} :
    fieldPath place path = .ok segments ↔
      Grammar.IsFieldPath path ∧ segments = Text.segments '.' path := by
  unfold fieldPath Grammar.IsFieldPath
  dsimp only
  split
  · rename_i h
    rw [List.any_eq_true] at h
    obtain ⟨segment, hmem, hempty⟩ := h
    rw [String.isEmpty_iff] at hempty
    constructor
    · intro h
      exact absurd h (reject_ne_ok _ _ _)
    · intro h
      obtain ⟨hpath, _⟩ := h
      exact absurd hempty (hpath segment hmem)
  · rename_i h
    rw [Bool.not_eq_true, List.any_eq_false] at h
    rw [Except.ok.injEq]
    constructor
    · intro heq
      refine ⟨?_, heq.symm⟩
      intro segment hmem hempty
      exact h segment hmem (String.isEmpty_iff.2 hempty)
    · intro h
      obtain ⟨_, heq⟩ := h
      exact heq.symm

theorem fieldBelow_eq_ok_iff {parent source : Source} {segments : List String} :
    fieldBelow place parent segments = .ok source ↔
      parent.hasFields = true ∧ source = .field parent segments := by
  rw [fieldBelow]
  by_cases h : parent.hasFields = true
  · simp [h, eq_comm]
  · simp [h, reject_ne_ok]

theorem sourceBelow_eq_ok_iff {base source : Source} {segments : List String} :
    sourceBelow place base segments = .ok source ↔ Grammar.Below base segments source := by
  unfold sourceBelow
  split
  · rw [Except.ok.injEq]
    constructor
    · intro heq
      subst heq
      exact .self
    · intro h
      cases h with
      | self => rfl
      | field hne => exact absurd rfl hne
  · rename_i hne
    split
    · rename_i hsegments
      rw [hsegments]
      split
      · rename_i howner
        rw [Except.ok.injEq]
        constructor
        · intro heq
          subst heq
          exact .lastActivity howner
        · intro h
          cases h with
          | lastActivity => rfl
          | field _ hactivity => exact absurd rfl hactivity
      · rename_i howner
        constructor
        · intro h
          exact absurd h (reject_ne_ok _ _ _)
        · intro h
          cases h with
          | lastActivity h => exact absurd h howner
          | field _ hactivity => exact absurd rfl hactivity
    · rename_i hactivity
      rw [fieldBelow_eq_ok_iff]
      constructor
      · intro h
        rcases h with ⟨hfields, rfl⟩
        exact .field hne hactivity hfields
      · intro h
        cases h with
        | self => exact absurd rfl hne
        | lastActivity => exact absurd rfl hactivity
        | field _ _ hfields => exact ⟨hfields, rfl⟩

theorem sourceOfPath_eq_ok_iff {path : String} {source : Source} :
    sourceOfPath place path = .ok source ↔ Grammar.Denotes place.source path source := by
  rw [sourceOfPath, bind_eq_ok_iff]
  constructor
  · intro h
    obtain ⟨segments, hsegments, h⟩ := h
    rw [fieldPath_eq_ok_iff] at hsegments
    obtain ⟨hpath, hsegments⟩ := hsegments
    split at h
    · exact .installation hpath hsegments.symm (sourceBelow_eq_ok_iff.1 h)
    · exact .user hpath hsegments.symm (sourceBelow_eq_ok_iff.1 h)
    · rename_i hinstallation huser
      rw [sourceBelow_eq_ok_iff] at h
      rw [hsegments] at h hinstallation huser
      exact .here hpath hinstallation huser h
  · intro h
    cases h with
    | installation hpath hsegments h =>
      refine ⟨_, fieldPath_eq_ok_iff.2 ⟨hpath, hsegments.symm⟩, ?_⟩
      exact sourceBelow_eq_ok_iff.2 h
    | user hpath hsegments h =>
      refine ⟨_, fieldPath_eq_ok_iff.2 ⟨hpath, hsegments.symm⟩, ?_⟩
      exact sourceBelow_eq_ok_iff.2 h
    | here hpath hinstallation huser h =>
      refine ⟨_, fieldPath_eq_ok_iff.2 ⟨hpath, rfl⟩, ?_⟩
      split
      · rename_i rest heq
        exact absurd heq (hinstallation rest)
      · rename_i rest heq
        exact absurd heq (huser rest)
      · exact sourceBelow_eq_ok_iff.2 h

theorem geoSource_eq_ok_iff {scope source : Source} :
    geoSource place scope key = .ok source ↔
      (key = "location" ∧ source = .location scope) ∨
        (key = "date" ∧ source = .locationDate scope) := by
  rw [geoSource]
  by_cases hlocation : key = "location"
  · simp [hlocation, eq_comm]
  · by_cases hdate : key = "date"
    · simp [hdate, eq_comm]
    · simp [hlocation, hdate, reject_ne_ok]

/-! ### Whole documents -/

theorem read_of_ofJson {limits : Limits} {json : Json} {criterion : PlacedCriterion}
    (h : ofJson limits json = .ok criterion) : read json (.root limits) = .ok criterion := by
  rw [ofJson, bind_eq_ok_iff] at h
  obtain ⟨found, hfound, h⟩ := h
  split at h
  · exact absurd h (reject_ne_ok _ _ _)
  · rw [pure_eq_ok_iff] at h
    rw [← h]
    exact hfound

end Criterion

end Audience
