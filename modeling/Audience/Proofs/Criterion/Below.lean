import Audience.Proofs.Criterion.Outcome
import Audience.Proofs.Place.Descent

/-!
# What is read below a level

A level hands values on to the reader for what is below it, each at a place entered from its own and
under a source that the rules give. What that reader gave is all that these steps build on.

* **`Criterion.ReadBelow`**: a tree that was given for a value at a place entered from another, under
  a source.
* **`Criterion.readBelow_of_criteriaList`**, **`Criterion.readBelow_of_geoMembers`**,
  **`Criterion.readBelow_of_under`**, **`Criterion.readBelow_of_presenceMembers`**: what lists, the
  members below `geo` and those around `presence` are built from.
* **`Criterion.exists_of_mem_parts`**: every part of an object stands under a keyword.
-/

namespace Audience.Criterion

variable {below : Reader} {place child : Place} {members : List (String × Json)}
variable {key : String} {value : Json} {source : Source} {criterion : PlacedCriterion}

/-- A reader gave the tree of some value at a place that was entered from `place`, under the source. -/
def ReadBelow (below : Reader) (place : Place) (source : Source) (criterion : PlacedCriterion) :
    Prop :=
  ∃ (json : Json) (deeper : Place), place.Deeper deeper ∧ deeper.source = source ∧
    below json deeper = .ok criterion

theorem ReadBelow.of_deeper (hdeeper : place.Deeper child)
    (h : ReadBelow below child source criterion) : ReadBelow below place source criterion := by
  obtain ⟨json, deeper, hinner, hsource, hread⟩ := h
  exact ⟨json, deeper, hdeeper.trans hinner, hsource, hread⟩

/-! ### Steps keep the source -/

theorem source_of_key {name : String} (h : place.key name = .ok child) :
    child.source = place.source := by
  obtain ⟨_, rfl⟩ := Place.enter_eq_ok_iff.1 h
  rfl

theorem source_of_index {position : Nat} (h : place.index position = .ok child) :
    child.source = place.source := by
  obtain ⟨_, rfl⟩ := Place.enter_eq_ok_iff.1 h
  rfl

/-! ### Lists -/

theorem exists_of_mem_items {α : Type} {read : Json → Place → Except Rejection α} :
    ∀ {rest : List Json} {start : Nat} {results : List α}, items read place start rest = .ok results →
      ∀ result ∈ results, ∃ (item : Json) (child : Place), place.Deeper child ∧
        child.source = place.source ∧ read item child = .ok result := by
  intro rest
  induction rest with
  | nil =>
    intro start results h
    cases h
    intro result hmem
    cases hmem
  | cons item rest ih =>
    intro start results h
    rw [items, bind_eq_ok_iff] at h
    obtain ⟨child, hchild, h⟩ := h
    obtain ⟨first, hfirst, h⟩ := bind_eq_ok_iff.1 h
    obtain ⟨others, hothers, h⟩ := bind_eq_ok_iff.1 h
    rw [pure_eq_ok_iff] at h
    subst h
    intro result hmem
    rw [List.mem_cons] at hmem
    rcases hmem with rfl | hmem
    · exact ⟨item, child, Place.deeper_of_enter hchild, source_of_index hchild, hfirst⟩
    · exact ih hothers result hmem

theorem readBelow_of_criteriaList {parts : List PlacedCriterion}
    (h : criteriaList below child key value = .ok parts) :
    ∀ part ∈ parts, ReadBelow below child child.source part := by
  unfold criteriaList at h
  split at h
  · intro part hmem
    exact exists_of_mem_items h part hmem
  · exact absurd h (reject_ne_ok _ _ _)

/-! ### Members below `geo` -/

theorem readBelow_of_geoMembers : ∀ {rest : List (String × Json)} {parts : List PlacedCriterion},
    geoMembers below child rest = .ok parts →
      ∀ part ∈ parts, ReadBelow below child (.location child.source) part ∨
        ReadBelow below child (.locationDate child.source) part := by
  intro rest
  induction rest with
  | nil =>
    intro parts h
    cases h
    intro part hmem
    cases hmem
  | cons entry rest ih =>
    intro parts h
    rw [geoMembers, bind_eq_ok_iff] at h
    obtain ⟨sub, hsub, h⟩ := h
    obtain ⟨source, hsource, h⟩ := bind_eq_ok_iff.1 h
    obtain ⟨first, hfirst, h⟩ := bind_eq_ok_iff.1 h
    obtain ⟨others, hothers, h⟩ := bind_eq_ok_iff.1 h
    rw [pure_eq_ok_iff] at h
    subst h
    have hdeeper := (Place.deeper_of_enter hsub).withSource source
    intro part hmem
    rw [List.mem_cons] at hmem
    rcases hmem with rfl | hmem
    · obtain ⟨_, rfl⟩ | ⟨_, rfl⟩ := geoSource_eq_ok_iff.1 hsource
      · exact .inl ⟨_, _, hdeeper, rfl, hfirst⟩
      · exact .inr ⟨_, _, hdeeper, rfl, hfirst⟩
    · exact ih hothers part hmem

/-! ### Members around `presence` -/

theorem readBelow_of_under {found : Option Json} {result : Option PlacedCriterion}
    (h : under below place key source found = .ok result) :
    ∀ inner, result = some inner → ReadBelow below place source inner := by
  unfold under at h
  split at h
  · cases h
    intro inner hinner
    cases hinner
  · obtain ⟨sub, hsub, h⟩ := bind_eq_ok_iff.1 h
    obtain ⟨found, hfound, h⟩ := bind_eq_ok_iff.1 h
    rw [pure_eq_ok_iff] at h
    subst h
    intro inner hinner
    cases hinner
    exact ⟨_, _, (Place.deeper_of_enter hsub).withSource source, rfl, hfound⟩

/-- The comparisons found so far were read under the source of a presence. -/
structure PresenceParts.ReadBelow (below : Reader) (place : Place) (source : Source)
    (parts : PresenceParts) : Prop where
  sinceDate : ∀ inner, parts.sinceDate = some inner →
    Criterion.ReadBelow below place (.sinceDate source) inner
  elapsedTime : ∀ inner, parts.elapsedTime = some inner →
    Criterion.ReadBelow below place (.elapsedTime source) inner

theorem PresenceParts.readBelow_nothing :
    PresenceParts.ReadBelow below place source ⟨none, none, none⟩ := by
  constructor <;> intro inner hinner <;> cases hinner

theorem readBelow_of_presenceMember {parts next : PresenceParts}
    (hparts : parts.ReadBelow below child child.source)
    (h : presenceMember below child parts key value = .ok next) :
    next.ReadBelow below child child.source := by
  rw [presenceMember, bind_eq_ok_iff] at h
  obtain ⟨sub, hsub, h⟩ := h
  have hdeeper := Place.deeper_of_enter hsub
  split at h
  · split at h
    · rw [pure_eq_ok_iff] at h
      subst h
      exact { hparts with }
    · exact absurd h (reject_ne_ok _ _ _)
  split at h
  · obtain ⟨found, hfound, h⟩ := bind_eq_ok_iff.1 h
    rw [pure_eq_ok_iff] at h
    subst h
    refine { hparts with sinceDate := ?_ }
    intro inner hinner
    cases hinner
    exact ⟨_, _, hdeeper.withSource _, rfl, hfound⟩
  split at h
  · obtain ⟨found, hfound, h⟩ := bind_eq_ok_iff.1 h
    rw [pure_eq_ok_iff] at h
    subst h
    refine { hparts with elapsedTime := ?_ }
    intro inner hinner
    cases hinner
    exact ⟨_, _, hdeeper.withSource _, rfl, hfound⟩
  · exact absurd h (reject_ne_ok _ _ _)

theorem readBelow_of_presenceMembers : ∀ {rest : List (String × Json)}
    {parts last : PresenceParts}, parts.ReadBelow below child child.source →
      rest.foldlM (fun parts entry => presenceMember below child parts entry.1 entry.2) parts =
        .ok last → last.ReadBelow below child child.source := by
  intro rest
  induction rest with
  | nil =>
    intro parts last hparts h
    rw [List.foldlM_nil, pure_eq_ok_iff] at h
    rw [← h]
    exact hparts
  | cons entry rest ih =>
    intro parts last hparts h
    rw [List.foldlM_cons, bind_eq_ok_iff] at h
    obtain ⟨next, hnext, h⟩ := h
    exact ih (readBelow_of_presenceMember hparts hnext) h

/-! ### Parts of an object -/

theorem exists_of_mem_parts : ∀ {rest : List (String × Json)} {results : List PlacedCriterion},
    parts below members place rest = .ok results → ∀ result ∈ results,
      ∃ (key : String) (keyword : Keyword) (value : Json) (child : Place),
        place.Deeper child ∧ child.source = place.source ∧
          keyworded below members place child key keyword value = .ok result := by
  intro rest
  induction rest with
  | nil =>
    intro results h
    cases h
    intro result hmem
    cases hmem
  | cons entry rest ih =>
    intro results h
    obtain ⟨key, value⟩ := entry
    rw [parts] at h
    split at h
    · split at h
      · exact ih h
      · obtain ⟨_, _, h⟩ := bind_eq_ok_iff.1 h
        exact absurd h (reject_ne_ok _ _ _)
    · obtain ⟨first, hfirst, h⟩ := bind_eq_ok_iff.1 h
      obtain ⟨others, hothers, h⟩ := bind_eq_ok_iff.1 h
      rw [pure_eq_ok_iff] at h
      subst h
      intro result hmem
      rw [List.mem_cons] at hmem
      rcases hmem with rfl | hmem
      · obtain ⟨child, hchild, hread⟩ := bind_eq_ok_iff.1 hfirst
        split at hread
        · exact ⟨key, _, value, child, Place.deeper_of_enter hchild, source_of_key hchild, hread⟩
        · exact absurd hread (reject_ne_ok _ _ _)
      · exact ih hothers result hmem

end Audience.Criterion
