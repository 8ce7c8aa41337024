import Audience.Proofs.Criterion.Below
import Audience.Proofs.Literal.Valid
import Audience.Proofs.Source.Sound

/-!
# Accepted trees are well formed

The invariant of a tree says whether an event is looked at, which changes below `someEvent` only. It
is carried through one level by what was read below it, with the source each part was read under.

* **`Criterion.WellFormed`**: every node has sound sources of the kind it needs, with valid literals
  that suit them.
* **`Criterion.ReadUnder`**, **`Criterion.Builds`**: what a reader gave under a source, and readers
  that build well formed trees.
* **`Criterion.builds_level`**: one level keeps to that.
* **`Criterion.wellFormed_of_ofJson`**: every accepted tree is well formed.
-/

namespace Audience

/-- The literals that a value is compared with. -/
def Test.literals : Test → List Literal
  | .equal value | .order _ value => [value]
  | .any values | .all values => values
  | .startsWith _ => []
  | .inside area => [.area area]

namespace Criterion

/-! ### Well formed trees -/

/-- Every node of a tree has what its kind needs. `looking` says whether an event is looked at: in a
tree that was accepted none is, and below `someEvent` one is. -/
inductive WellFormed : Bool → PlacedCriterion → Prop
  | matchAll {looking : Bool} {mark : Place} (hmark : mark.source.Sound looking) :
      WellFormed looking (.matchAll mark)
  | and {looking : Bool} {mark : Place} {parts : List PlacedCriterion}
      (hmark : mark.source.Sound looking) (hparts : ∀ part ∈ parts, WellFormed looking part) :
      WellFormed looking (.and mark parts)
  | or {looking : Bool} {mark : Place} {parts : List PlacedCriterion}
      (hmark : mark.source.Sound looking) (hparts : ∀ part ∈ parts, WellFormed looking part) :
      WellFormed looking (.or mark parts)
  | not {looking : Bool} {mark : Place} {inner : PlacedCriterion}
      (hmark : mark.source.Sound looking) (hinner : WellFormed looking inner) :
      WellFormed looking (.not mark inner)
  | test {looking : Bool} {mark : Place} {source : Source} {question : Test}
      (hmark : mark.source.Sound looking) (hsource : source.Sound looking)
      (hvalue : source.isRoot = false)
      (hsuits : ∀ literal ∈ question.literals, literal.Suits source)
      (hvalid : ∀ literal ∈ question.literals, literal.Valid) :
      WellFormed looking (.test mark source question)
  | presence {looking : Bool} {mark : Place} {source : Source} {present : Bool}
      {sinceDate elapsedTime : Option PlacedCriterion}
      (hmark : mark.source.Sound looking) (hsource : source.Sound looking)
      (hsince : ∀ inner, sinceDate = some inner → inner.mark.source = .sinceDate source)
      (hsinceTree : ∀ inner, sinceDate = some inner → WellFormed looking inner)
      (helapsed : ∀ inner, elapsedTime = some inner → inner.mark.source = .elapsedTime source)
      (helapsedTree : ∀ inner, elapsedTime = some inner → WellFormed looking inner) :
      WellFormed looking (.presence mark source present sinceDate elapsedTime)
  | someEvent {looking : Bool} {mark : Place} {inner : PlacedCriterion}
      (hmark : mark.source.Sound looking) (hinner : WellFormed true inner) :
      WellFormed looking (.someEvent mark inner)
  | subscription {looking : Bool} {mark : Place} {source : Source} {status : SubscriptionStatus}
      (hmark : mark.source.Sound looking) (hsource : source.Sound looking)
      (howner : source.isOwner = true) : WellFormed looking (.subscription mark source status)

variable {below : Reader} {place child : Place} {members inner : List (String × Json)}
variable {json value : Json} {key : String} {source : Source} {looking : Bool}
variable {criterion : PlacedCriterion}

theorem wellFormed_allOf {parts : List PlacedCriterion} (hplace : place.source.Sound looking)
    (hparts : ∀ part ∈ parts, WellFormed looking part) : WellFormed looking (allOf place parts) := by
  match parts with
  | [] => exact .and hplace hparts
  | [part] => exact hparts part List.mem_cons_self
  | _ :: _ :: _ => exact .and hplace hparts

/-! ### What is read below a level -/

/-- A reader gave the tree of some value at some place with the source. -/
def ReadUnder (below : Reader) (source : Source) (criterion : PlacedCriterion) : Prop :=
  ∃ (json : Json) (place : Place), place.source = source ∧ below json place = .ok criterion

/-- A reader that builds well formed trees. Under a source without fields, where no key leads to
another source, the topmost node stays under the source. -/
structure Builds (below : Reader) : Prop where
  wellFormed {source : Source} {looking : Bool} {criterion : PlacedCriterion}
    (hsource : source.Sound looking) (h : ReadUnder below source criterion) :
    WellFormed looking criterion
  mark_source {source : Source} {criterion : PlacedCriterion} (hsource : source.hasFields = false)
    (h : ReadUnder below source criterion) : criterion.mark.source = source

theorem ReadBelow.readUnder (h : ReadBelow below place source criterion) :
    ReadUnder below source criterion := by
  obtain ⟨json, deeper, _, hsource, hread⟩ := h
  exact ⟨json, deeper, hsource, hread⟩

theorem suits_and_valid_of_literalList {literals : List Literal}
    (h : literalList child key value = .ok literals) :
    ∀ literal ∈ literals, literal.Suits child.source ∧ literal.Valid := by
  unfold literalList at h
  split at h
  · intro literal hmem
    obtain ⟨item, place, _, hplace, hread⟩ := exists_of_mem_items h literal hmem
    rw [← hplace]
    exact Literal.suits_and_valid_of_ofJson hread
  · exact absurd h (reject_ne_ok _ _ _)

/-! ### What one level builds -/

theorem sound_of_besideSource (hplace : place.source.Sound looking)
    (h : besideSource place members = .ok source) : source.Sound looking := by
  rw [besideSource] at h
  split at h
  · cases h
    exact hplace
  · obtain ⟨sub, hsub, h⟩ := bind_eq_ok_iff.1 h
    obtain ⟨path, _, h⟩ := bind_eq_ok_iff.1 h
    have hdenotes := sourceOfPath_eq_ok_iff.1 h
    rw [source_of_key hsub] at hdenotes
    exact Source.sound_of_denotes hdenotes hplace

/-- A presence whose comparisons were read under its own source. -/
theorem wellFormed_presence {present : Bool} {since elapsed : Option PlacedCriterion}
    (hbelow : Builds below) (hmark : child.source.Sound looking) (hsource : source.Sound looking)
    (hsince : ∀ inner, since = some inner → ReadBelow below place (.sinceDate source) inner)
    (helapsed : ∀ inner, elapsed = some inner → ReadBelow below place (.elapsedTime source) inner) :
    WellFormed looking (.presence child source present since elapsed) := by
  refine .presence hmark hsource ?_ ?_ ?_ ?_
  · intro inner hinner
    exact hbelow.mark_source rfl (hsince inner hinner).readUnder
  · intro inner hinner
    exact hbelow.wellFormed hsource.sinceDate (hsince inner hinner).readUnder
  · intro inner hinner
    exact hbelow.mark_source rfl (helapsed inner hinner).readUnder
  · intro inner hinner
    exact hbelow.wellFormed hsource.elapsedTime (helapsed inner hinner).readUnder

theorem wellFormed_presenceBeside {present : Bool} (hbelow : Builds below)
    (hplace : place.source.Sound looking) (hchild : child.source = place.source)
    (h : presenceBeside below place child present members = .ok criterion) :
    WellFormed looking criterion := by
  rw [presenceBeside, bind_eq_ok_iff] at h
  obtain ⟨source, hsource, h⟩ := h
  obtain ⟨since, hsince, h⟩ := bind_eq_ok_iff.1 h
  obtain ⟨elapsed, helapsed, h⟩ := bind_eq_ok_iff.1 h
  rw [pure_eq_ok_iff] at h
  subst h
  have hmark : child.source.Sound looking := hchild ▸ hplace
  have hsound : source.Sound looking := sound_of_besideSource hplace hsource
  exact wellFormed_presence hbelow hmark hsound (readBelow_of_under hsince)
    (readBelow_of_under helapsed)

theorem wellFormed_presenceWithin (hbelow : Builds below) (hchild : child.source.Sound looking)
    (h : presenceWithin below child inner = .ok criterion) : WellFormed looking criterion := by
  rw [presenceWithin, bind_eq_ok_iff] at h
  obtain ⟨parts, hparts, h⟩ := h
  have hread : parts.ReadBelow below child child.source :=
    readBelow_of_presenceMembers PresenceParts.readBelow_nothing hparts
  split at h
  · rw [pure_eq_ok_iff] at h
    subst h
    exact wellFormed_presence hbelow hchild hchild hread.sinceDate hread.elapsedTime
  · exact absurd h (reject_ne_ok _ _ _)

/-- A test under a keyword. -/
theorem wellFormed_test {α : Type} {read : Except Rejection α} {question : α → Test}
    (hplace : place.source.Sound looking) (hchild : child.source = place.source)
    (hliterals : ∀ a, read = .ok a → ∀ literal ∈ (question a).literals,
      literal.Suits child.source ∧ literal.Valid)
    (h : (do needValue place child key; return test child place.source (question (← read))) =
      .ok criterion) : WellFormed looking criterion := by
  obtain ⟨_, hneed, h⟩ := bind_eq_ok_iff.1 h
  obtain ⟨a, ha, h⟩ := bind_eq_ok_iff.1 h
  rw [pure_eq_ok_iff] at h
  subst h
  rw [hchild] at hliterals
  refine .test (hchild ▸ hplace) hplace (needValue_eq_ok_iff.1 hneed) ?_ ?_
  · intro literal hmem
    exact (hliterals a ha literal hmem).1
  · intro literal hmem
    exact (hliterals a ha literal hmem).2

theorem wellFormed_keyworded {keyword : Keyword} (hbelow : Builds below)
    (hplace : place.source.Sound looking) (hchild : child.source = place.source)
    (h : keyworded below members place child key keyword value = .ok criterion) :
    WellFormed looking criterion := by
  have hmark : child.source.Sound looking := hchild ▸ hplace
  have hsingle : ∀ literal : Literal, Literal.ofJson child value = .ok literal →
      ∀ other ∈ [literal], other.Suits child.source ∧ other.Valid := by
    intro literal hliteral other hmem
    rw [List.mem_singleton] at hmem
    rw [hmem]
    exact Literal.suits_and_valid_of_ofJson hliteral
  cases keyword with
  | field path =>
    obtain ⟨segments, hsegments, h⟩ := bind_eq_ok_iff.1 h
    obtain ⟨source, hsource, h⟩ := bind_eq_ok_iff.1 h
    obtain ⟨hpath, rfl⟩ := fieldPath_eq_ok_iff.1 hsegments
    obtain ⟨hfields, rfl⟩ := fieldBelow_eq_ok_iff.1 hsource
    exact hbelow.wellFormed (hplace.field hfields (Source.isSegments_of_isFieldPath hpath))
      ⟨_, _, rfl, h⟩
  | order operator => exact wellFormed_test hplace hchild hsingle h
  | equal => exact wellFormed_test hplace hchild hsingle h
  | any =>
    exact wellFormed_test hplace hchild (fun _ => suits_and_valid_of_literalList) h
  | all =>
    exact wellFormed_test hplace hchild (fun _ => suits_and_valid_of_literalList) h
  | startsWith =>
    refine wellFormed_test hplace hchild ?_ h
    intro text _ literal hmem
    cases hmem
  | inside =>
    refine wellFormed_test hplace hchild ?_ h
    intro area harea literal hmem
    replace hmem : literal ∈ [Literal.area area] := hmem
    rw [List.mem_singleton] at hmem
    rw [hmem]
    exact ⟨trivial, Literal.valid_of_areaOfJson harea⟩
  | and =>
    obtain ⟨parts, hparts, h⟩ := bind_eq_ok_iff.1 h
    cases h
    refine .and hmark fun part hmem => ?_
    exact hbelow.wellFormed hmark (readBelow_of_criteriaList hparts part hmem).readUnder
  | or =>
    obtain ⟨parts, hparts, h⟩ := bind_eq_ok_iff.1 h
    cases h
    refine .or hmark fun part hmem => ?_
    exact hbelow.wellFormed hmark (readBelow_of_criteriaList hparts part hmem).readUnder
  | not =>
    obtain ⟨inner, hinner, h⟩ := bind_eq_ok_iff.1 h
    cases h
    exact .not hmark (hbelow.wellFormed hmark ⟨_, _, rfl, hinner⟩)
  | installation =>
    obtain ⟨_, _, h⟩ := bind_eq_ok_iff.1 h
    exact hbelow.wellFormed Source.sound_installation ⟨_, _, rfl, h⟩
  | user =>
    obtain ⟨_, _, h⟩ := bind_eq_ok_iff.1 h
    exact hbelow.wellFormed Source.sound_user ⟨_, _, rfl, h⟩
  | event =>
    obtain ⟨_, _, h⟩ := bind_eq_ok_iff.1 h
    obtain ⟨inner, hinner, h⟩ := bind_eq_ok_iff.1 h
    cases h
    -- from here on an event is looked at
    exact .someEvent hmark (hbelow.wellFormed Source.sound_event ⟨_, _, rfl, hinner⟩)
  | lastActivity =>
    obtain ⟨_, hneed, h⟩ := bind_eq_ok_iff.1 h
    have howner := needOwner_eq_ok_iff.1 hneed
    exact hbelow.wellFormed (hplace.lastActivity howner) ⟨_, _, rfl, h⟩
  | geo =>
    obtain ⟨_, hneed, h⟩ := bind_eq_ok_iff.1 h
    have howner : child.source.isOwner = true := by
      rw [hchild]
      exact needOwner_eq_ok_iff.1 hneed
    unfold geoOf at h
    split at h
    · obtain ⟨parts, hparts, h⟩ := bind_eq_ok_iff.1 h
      rw [pure_eq_ok_iff] at h
      subst h
      refine wellFormed_allOf hmark fun part hmem => ?_
      obtain hread | hread := readBelow_of_geoMembers hparts part hmem
      · exact hbelow.wellFormed (hmark.location howner) hread.readUnder
      · exact hbelow.wellFormed (hmark.locationDate howner) hread.readUnder
    · exact absurd h (reject_ne_ok _ _ _)
  | subscription =>
    obtain ⟨_, hneed, h⟩ := bind_eq_ok_iff.1 h
    obtain ⟨status, _, h⟩ := bind_eq_ok_iff.1 h
    cases h
    exact .subscription hmark hplace (needOwner_eq_ok_iff.1 hneed)
  | presence =>
    cases value with
    | bool present => exact wellFormed_presenceBeside hbelow hplace hchild h
    | object inner => exact wellFormed_presenceWithin hbelow hmark h
    | _ => exact absurd h (reject_ne_ok _ _ _)

/-- Under a source without fields, what stands under a keyword is a node of its own. -/
theorem mark_of_keyworded {keyword : Keyword} (hplace : place.source.hasFields = false)
    (h : keyworded below members place child key keyword value = .ok criterion) :
    criterion.mark = child := by
  have hroot : place.source.isRoot = false := by
    rw [Source.hasFields, Bool.or_eq_false_iff] at hplace
    exact hplace.1
  have howner : place.source.isOwner = false := by
    cases hsource : place.source <;> simp_all [Source.isRoot, Source.isOwner]
  have hneedRoot : ∀ u, needRoot place child key ≠ .ok u := by
    intro u hneed
    rw [needRoot_eq_ok_iff, hroot] at hneed
    cases hneed
  have hneedOwner : ∀ u, needOwner place child key ≠ .ok u := by
    intro u hneed
    rw [needOwner_eq_ok_iff, howner] at hneed
    cases hneed
  cases keyword with
  | field path =>
    obtain ⟨segments, _, h⟩ := bind_eq_ok_iff.1 h
    obtain ⟨source, hsource, _⟩ := bind_eq_ok_iff.1 h
    have hfields := (fieldBelow_eq_ok_iff.1 hsource).1
    rw [hplace] at hfields
    cases hfields
  | order | equal | any | all | startsWith | inside =>
    obtain ⟨_, _, h⟩ := bind_eq_ok_iff.1 h
    obtain ⟨_, _, h⟩ := bind_eq_ok_iff.1 h
    cases h
    rfl
  | and | or | not =>
    obtain ⟨_, _, h⟩ := bind_eq_ok_iff.1 h
    cases h
    rfl
  | installation | user | event =>
    obtain ⟨u, hneed, _⟩ := bind_eq_ok_iff.1 h
    exact absurd hneed (hneedRoot u)
  | lastActivity | geo | subscription =>
    obtain ⟨u, hneed, _⟩ := bind_eq_ok_iff.1 h
    exact absurd hneed (hneedOwner u)
  | presence =>
    cases value with
    | bool present =>
      obtain ⟨_, _, h⟩ := bind_eq_ok_iff.1 h
      obtain ⟨_, _, h⟩ := bind_eq_ok_iff.1 h
      obtain ⟨_, _, h⟩ := bind_eq_ok_iff.1 h
      cases h
      rfl
    | object inner =>
      obtain ⟨parts, _, h⟩ := bind_eq_ok_iff.1 h
      split at h
      · cases h
        rfl
      · exact absurd h (reject_ne_ok _ _ _)
    | _ => exact absurd h (reject_ne_ok _ _ _)

theorem builds_level (hbelow : Builds below) : Builds (level below) where
  wellFormed := by
    intro source looking criterion hsource h
    rcases h with ⟨json, place, rfl, h⟩
    unfold level at h
    split at h
    · cases h
      exact .matchAll hsource
    · obtain ⟨parts, hparts, h⟩ := bind_eq_ok_iff.1 h
      rw [pure_eq_ok_iff] at h
      subst h
      refine wellFormed_allOf hsource fun part hmem => ?_
      obtain ⟨_, _, _, _, _, hchild, hread⟩ := exists_of_mem_parts hparts part hmem
      exact wellFormed_keyworded hbelow hsource hchild hread
    · exact absurd h (reject_ne_ok _ _ _)
  mark_source := by
    intro source criterion hsource h
    rcases h with ⟨json, place, rfl, h⟩
    unfold level at h
    split at h
    · cases h
      rfl
    · obtain ⟨parts, hparts, h⟩ := bind_eq_ok_iff.1 h
      rw [pure_eq_ok_iff] at h
      subst h
      -- a single part stands for the object and brings its own mark
      match parts with
      | [] => rfl
      | [part] =>
        obtain ⟨_, _, _, _, _, hchild, hread⟩ := exists_of_mem_parts hparts part List.mem_cons_self
        show part.mark.source = _
        rw [mark_of_keyworded hsource hread, hchild]
      | _ :: _ :: _ => rfl
    · exact absurd h (reject_ne_ok _ _ _)

/-! ### Accepted trees -/

theorem builds_readWithin (levels : Nat) : Builds (readWithin levels) := by
  induction levels with
  | zero =>
    refine builds_level ⟨?_, ?_⟩
    · intro _ _ _ _ h
      obtain ⟨_, _, _, h⟩ := h
      exact absurd h (reject_ne_ok _ _ _)
    · intro _ _ _ h
      obtain ⟨_, _, _, h⟩ := h
      exact absurd h (reject_ne_ok _ _ _)
  | succ levels ih => exact builds_level ih

/-- Every accepted tree is well formed, and no event is looked at from outside of it. -/
theorem wellFormed_of_ofJson (limits : Limits) (json : Json) (criterion : PlacedCriterion)
    (h : ofJson limits json = .ok criterion) : WellFormed false criterion := by
  rw [ofJson, bind_eq_ok_iff] at h
  obtain ⟨accepted, hread, h⟩ := h
  have hwellFormed : WellFormed false accepted :=
    (builds_readWithin _).wellFormed Source.sound_installation ⟨json, .root limits, rfl, hread⟩
  split at h
  · exact absurd h (reject_ne_ok _ _ _)
  · rw [pure_eq_ok_iff] at h
    rw [← h]
    exact hwellFormed

/-- An event is looked at below the join alone, and the presence there is that of the user. -/
theorem wellFormed_presence_below_event : ∃ criterion,
    ofJson .standard (.object [("event", .object [("presence", .bool true),
      ("sinceDateComparison", .object [("gt", .string "-P1M")]), ("source", .string "user.plan")])]) =
        .ok criterion ∧ WellFormed false criterion := by
  have haccepted : Accepts (ofJson .standard (.object [("event", .object [("presence", .bool true),
      ("sinceDateComparison", .object [("gt", .string "-P1M")]),
      ("source", .string "user.plan")])])) := accepts_of_isOk (by decide +kernel)
  obtain ⟨criterion, h⟩ := haccepted
  exact ⟨criterion, h, wellFormed_of_ofJson _ _ _ h⟩

end Criterion

end Audience
