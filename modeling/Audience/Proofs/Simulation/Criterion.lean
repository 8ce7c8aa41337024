import Audience.Proofs.Criterion.Tree
import Audience.Proofs.Simulation.Literal
import Mathlib.Data.List.Forall2

/-!
# Simulation of the reading of criteria

The rules of one level are gone through once, for every simulation. What they read below the level is
read at places that were entered from the place of the level, which is what makes the induction over
the levels go through.

* **`Simulation.keyworded`**, **`Simulation.parts`**, **`Simulation.level`**: the readings of what
  stands under a keyword, of members and of one level correspond if those below do.
* **`Simulation.readWithin`**, **`Simulation.read`**: the readings of criteria at corresponding places
  correspond, with the same tree but for the marks.
-/

namespace Audience.Simulation

open Criterion

variable {γ : Type} {sim : Simulation γ} {json value : Json} {p q p' q' : Place}
variable {below below' : Reader} {members : List (String × Json)} {key : String}

/-! ### Conditions on the source in force -/

theorem needRoot (h : sim.places json p q) (hchild : sim.places value p' q') (key : String) :
    sim.outcomes Eq (Criterion.needRoot p p' key) (Criterion.needRoot q q' key) := by
  unfold Criterion.needRoot
  rw [sim.source_eq h]
  split
  · exact ok_self _
  · exact sim.reject hchild _

theorem needOwner (h : sim.places json p q) (hchild : sim.places value p' q') (key : String) :
    sim.outcomes Eq (Criterion.needOwner p p' key) (Criterion.needOwner q q' key) := by
  unfold Criterion.needOwner
  rw [sim.source_eq h]
  split
  · exact ok_self _
  · exact sim.reject hchild _

theorem needValue (h : sim.places json p q) (hchild : sim.places value p' q') (key : String) :
    sim.outcomes Eq (Criterion.needValue p p' key) (Criterion.needValue q q' key) := by
  unfold Criterion.needValue
  rw [sim.source_eq h]
  split
  · exact sim.reject hchild _
  · exact ok_self _

/-! ### Sources -/

theorem fieldPath (h : sim.places json p q) (path : String) :
    sim.outcomes Eq (Criterion.fieldPath p path) (Criterion.fieldPath q path) := by
  unfold Criterion.fieldPath
  dsimp only
  split
  · exact sim.reject h _
  · exact ok_self _

theorem fieldBelow (h : sim.places json p q) (parent : Source) (segments : List String) :
    sim.outcomes Eq (Criterion.fieldBelow p parent segments)
      (Criterion.fieldBelow q parent segments) := by
  unfold Criterion.fieldBelow
  split
  · exact ok_self _
  · exact sim.reject h _

theorem sourceBelow (h : sim.places json p q) (base : Source) (segments : List String) :
    sim.outcomes Eq (Criterion.sourceBelow p base segments)
      (Criterion.sourceBelow q base segments) := by
  unfold Criterion.sourceBelow
  split
  · exact ok_self _
  · split
    · split
      · exact ok_self _
      · exact sim.reject h _
    · exact fieldBelow h base _

theorem sourceOfPath (h : sim.places json p q) (path : String) :
    sim.outcomes Eq (Criterion.sourceOfPath p path) (Criterion.sourceOfPath q path) := by
  unfold Criterion.sourceOfPath
  refine sim.bind (fieldPath h path) ?_
  intro segments segments' heq
  subst heq
  rw [sim.source_eq h]
  split
  · exact sourceBelow h _ _
  · exact sourceBelow h _ _
  · exact sourceBelow h _ _

/-! ### Lists, strings and statuses -/

/-- The items of an array are read at corresponding places, each with its own index. -/
theorem items {α β : Type} {results : α → β → Prop} {read : Json → Place → Except Rejection α}
    {read' : Json → Place → Except Rejection β} {values : List Json}
    (h : sim.places (.array values) p q) (hread : sim.Reads p q results read read') :
    ∀ (rest : List Json) (start : Nat),
      (∀ (i : Nat) (item : Json), rest[i]? = some item → values[start + i]? = some item) →
      sim.outcomes (List.Forall₂ results) (Criterion.items read p start rest)
        (Criterion.items read' q start rest) := by
  intro rest
  induction rest with
  | nil =>
    intro start _
    exact sim.ok .nil
  | cons item rest ih =>
    intro start hrest
    have hitem : values[start]? = some item := hrest 0 item rfl
    refine sim.bind (sim.index h hitem) fun p' q' hin => ?_
    refine sim.bind (hread item p' q' hin) fun a b hab => ?_
    refine sim.bind (ih (start + 1) fun i other hother => ?_) fun as bs hall => ?_
    · rw [Nat.add_assoc, Nat.add_comm 1 i]
      exact hrest (i + 1) other hother
    · exact sim.ok (.cons hab hall)

theorem criteriaList (h : sim.places json p q) (hbelow : sim.Reads p q sim.SameTree below below')
    (key : String) :
    sim.outcomes (List.Forall₂ sim.SameTree) (Criterion.criteriaList below p key json)
      (Criterion.criteriaList below' q key json) := by
  unfold Criterion.criteriaList
  split
  · refine items h hbelow _ 0 fun i item hitem => ?_
    rwa [Nat.zero_add]
  · exact sim.reject h _

theorem literalList (h : sim.places json p q) (key : String) :
    sim.outcomes Eq (Criterion.literalList p key json) (Criterion.literalList q key json) := by
  unfold Criterion.literalList
  split
  · rename_i values
    have hread : sim.Reads p q Eq (fun json place => Literal.ofJson place json)
        (fun json place => Literal.ofJson place json) :=
      fun json p' q' hin => literal_ofJson hin.2.2
    have hitems := items h hread values 0 fun i item hitem => by rwa [Nat.zero_add]
    rwa [List.forall₂_eq_eq_eq] at hitems
  · exact sim.reject h _

theorem stringOf (h : sim.places json p q) (key : String) (value : Json) :
    sim.outcomes Eq (Criterion.stringOf p key value) (Criterion.stringOf q key value) := by
  unfold Criterion.stringOf
  split
  · exact ok_self _
  · exact sim.reject h _

theorem statusOf (h : sim.places json p q) (key : String) (value : Json) :
    sim.outcomes Eq (Criterion.statusOf p key value) (Criterion.statusOf q key value) := by
  unfold Criterion.statusOf
  refine sim.bind (stringOf h key value) ?_
  intro name name' heq
  subst heq
  split
  · exact ok_self _
  · exact sim.reject h _

/-! ### Trees -/

theorem map_eq_of_forall₂ {cs ds : List PlacedCriterion} (h : List.Forall₂ sim.SameTree cs ds) :
    cs.map (Criterion.map sim.mark) = ds.map (Criterion.map sim.mark) := by
  induction h with
  | nil => rfl
  | cons h _ ih => rw [List.map_cons, List.map_cons, ih, h]

theorem sameTree_allOf {cs ds : List PlacedCriterion} (h : sim.places json p q)
    (hparts : List.Forall₂ sim.SameTree cs ds) : sim.SameTree (allOf p cs) (allOf q ds) := by
  rw [SameTree, map_allOf, map_allOf, sim.mark_eq h, map_eq_of_forall₂ hparts]

/-! ### Members below `geo` -/

theorem geoSource (h : sim.places json p q) (scope : Source) (key : String) :
    sim.outcomes Eq (Criterion.geoSource p scope key) (Criterion.geoSource q scope key) := by
  unfold Criterion.geoSource
  split
  · exact ok_self _
  split
  · exact ok_self _
  · exact sim.reject h _

theorem geoMembers (h : sim.places (.object members) p q)
    (hbelow : sim.Reads p q sim.SameTree below below') :
    ∀ rest : List (String × Json), (∀ entry ∈ rest, entry ∈ members) →
      sim.outcomes (List.Forall₂ sim.SameTree) (Criterion.geoMembers below p rest)
        (Criterion.geoMembers below' q rest) := by
  intro rest
  induction rest with
  | nil =>
    intro _
    exact sim.ok .nil
  | cons entry rest ih =>
    intro hrest
    obtain ⟨key, value⟩ := entry
    have hmem := hrest (key, value) List.mem_cons_self
    refine sim.bind (sim.key h hmem) fun p' q' hin => ?_
    rw [sim.source_eq h]
    refine sim.bind (geoSource hin.2.2 q.source key) ?_
    intro source source' heq
    subst heq
    refine sim.bind (hbelow value _ _ (Entered.withSource hin source)) fun c d hcd => ?_
    refine sim.bind (ih fun other hother => hrest other (List.mem_cons_of_mem _ hother)) ?_
    intro cs ds hall
    exact sim.ok (.cons hcd hall)

theorem geoOf (h : sim.places json p q) (hbelow : sim.Reads p q sim.SameTree below below') :
    sim.outcomes sim.SameTree (Criterion.geoOf below p json) (Criterion.geoOf below' q json) := by
  unfold Criterion.geoOf
  split
  · refine sim.bind (geoMembers h hbelow _ fun entry hentry => hentry) fun cs ds hall => ?_
    exact sim.ok (sameTree_allOf h hall)
  · exact sim.reject h _

/-! ### Presence -/

/-- A member is read as a criterion on another source, if it is there. -/
theorem under (h : sim.places (.object members) p q)
    (hbelow : sim.Reads p q sim.SameTree below below') (key : String) (source : Source) :
    sim.outcomes (fun c d => c.map (Criterion.map sim.mark) = d.map (Criterion.map sim.mark))
      (Criterion.under below p key source (Json.find? members key))
      (Criterion.under below' q key source (Json.find? members key)) := by
  unfold Criterion.under
  split
  · exact sim.ok rfl
  · rename_i value hvalue
    refine sim.bind (sim.key h (Json.mem_of_find? hvalue)) fun p' q' hin => ?_
    refine sim.bind (hbelow value _ _ (Entered.withSource hin source)) fun c d hcd => ?_
    exact sim.ok (congrArg some hcd)

theorem besideSource (h : sim.places (.object members) p q) :
    sim.outcomes Eq (Criterion.besideSource p members) (Criterion.besideSource q members) := by
  unfold Criterion.besideSource
  split
  · exact sim.ok (sim.source_eq h)
  · rename_i value hvalue
    refine sim.bind (sim.key h (Json.mem_of_find? hvalue)) fun p' q' hin => ?_
    refine sim.bind (stringOf hin.2.2 "source" value) ?_
    intro path path' heq
    subst heq
    -- the path starts at the source in force where `source` stands, which is the one of its object
    exact sourceOfPath hin.2.2 path

theorem sameTree_presence {sinceDate sinceDate' elapsedTime elapsedTime' : Option PlacedCriterion}
    (h : sim.places json p q) (source : Source) (present : Bool)
    (hsince : sinceDate.map (Criterion.map sim.mark) = sinceDate'.map (Criterion.map sim.mark))
    (helapsed :
      elapsedTime.map (Criterion.map sim.mark) = elapsedTime'.map (Criterion.map sim.mark)) :
    sim.SameTree (.presence p source present sinceDate elapsedTime)
      (.presence q source present sinceDate' elapsedTime') := by
  rw [SameTree, Criterion.map, Criterion.map, mapOf_eq_map, mapOf_eq_map, mapOf_eq_map,
    mapOf_eq_map, sim.mark_eq h, hsince, helapsed]

theorem presenceBeside (h : sim.places (.object members) p q)
    (hchild : sim.places value p' q') (hbelow : sim.Reads p q sim.SameTree below below')
    (present : Bool) :
    sim.outcomes sim.SameTree (Criterion.presenceBeside below p p' present members)
      (Criterion.presenceBeside below' q q' present members) := by
  unfold Criterion.presenceBeside
  refine sim.bind (besideSource h) ?_
  intro source source' heq
  subst heq
  refine sim.bind (under h hbelow _ _) fun since since' hsince => ?_
  refine sim.bind (under h hbelow _ _) fun elapsed elapsed' helapsed => ?_
  exact sim.ok (sameTree_presence hchild source present hsince helapsed)

/-- Corresponding results of the members below `presence`. -/
structure SameParts (sim : Simulation γ) (parts parts' : PresenceParts) : Prop where
  present : parts.present = parts'.present
  sinceDate : parts.sinceDate.map (Criterion.map sim.mark) =
    parts'.sinceDate.map (Criterion.map sim.mark)
  elapsedTime : parts.elapsedTime.map (Criterion.map sim.mark) =
    parts'.elapsedTime.map (Criterion.map sim.mark)

theorem presenceMember {parts parts' : PresenceParts} (h : sim.places (.object members) p q)
    (hbelow : sim.Reads p q sim.SameTree below below') (hparts : sim.SameParts parts parts')
    (hmem : (key, value) ∈ members) :
    sim.outcomes sim.SameParts (Criterion.presenceMember below p parts key value)
      (Criterion.presenceMember below' q parts' key value) := by
  unfold Criterion.presenceMember
  refine sim.bind (sim.key h hmem) fun p' q' hin => ?_
  rw [sim.source_eq h]
  split
  · split
    · exact sim.ok { hparts with present := rfl }
    · exact sim.reject hin.2.2 _
  split
  · refine sim.bind (hbelow value _ _ (Entered.withSource hin _)) fun c d hcd => ?_
    exact sim.ok { hparts with sinceDate := congrArg some hcd }
  split
  · refine sim.bind (hbelow value _ _ (Entered.withSource hin _)) fun c d hcd => ?_
    exact sim.ok { hparts with elapsedTime := congrArg some hcd }
  · exact sim.reject hin.2.2 _

theorem presenceMembers (h : sim.places (.object members) p q)
    (hbelow : sim.Reads p q sim.SameTree below below') :
    ∀ (rest : List (String × Json)) (parts parts' : PresenceParts),
      (∀ entry ∈ rest, entry ∈ members) → sim.SameParts parts parts' →
      sim.outcomes sim.SameParts
        (rest.foldlM (fun parts entry =>
          Criterion.presenceMember below p parts entry.1 entry.2) parts)
        (rest.foldlM (fun parts entry =>
          Criterion.presenceMember below' q parts entry.1 entry.2) parts') := by
  intro rest
  induction rest with
  | nil =>
    intro parts parts' _ hparts
    exact sim.ok hparts
  | cons entry rest ih =>
    intro parts parts' hrest hparts
    rw [List.foldlM_cons, List.foldlM_cons]
    refine sim.bind (presenceMember h hbelow hparts (hrest entry List.mem_cons_self)) ?_
    intro next next' hnext
    exact ih next next' (fun other hother => hrest other (List.mem_cons_of_mem _ hother)) hnext

theorem presenceWithin (h : sim.places (.object members) p q)
    (hbelow : sim.Reads p q sim.SameTree below below') :
    sim.outcomes sim.SameTree (Criterion.presenceWithin below p members)
      (Criterion.presenceWithin below' q members) := by
  unfold Criterion.presenceWithin
  have hstart : sim.SameParts ⟨none, none, none⟩ ⟨none, none, none⟩ := ⟨rfl, rfl, rfl⟩
  refine sim.bind (presenceMembers h hbelow _ _ _ (fun entry hentry => hentry) hstart) ?_
  intro parts parts' hparts
  rw [hparts.present, sim.source_eq h]
  split
  · exact sim.ok (sameTree_presence h _ _ hparts.sinceDate hparts.elapsedTime)
  · exact sim.reject h _

/-! ### One level -/

theorem sameTree_test (h : sim.places json p q) (source : Source) (question : Test) :
    sim.SameTree (.test p source question) (.test q source question) := by
  rw [SameTree, Criterion.map, Criterion.map, sim.mark_eq h]

/-- A question under a keyword is the same if what it asks with is. -/
theorem tested {α : Type} {x y : Except Rejection α} {question : α → Test}
    (h : sim.places json p q) (hchild : sim.places value p' q') (key : String)
    (hread : sim.outcomes Eq x y) :
    sim.outcomes sim.SameTree
      (do Criterion.needValue p p' key; return .test p' p.source (question (← x)))
      (do Criterion.needValue q q' key; return .test q' q.source (question (← y))) := by
  refine sim.bind (needValue h hchild key) fun _ _ _ => ?_
  refine sim.bind hread ?_
  intro a b hab
  rw [hab, sim.source_eq h]
  exact sim.ok (sameTree_test hchild _ _)

theorem keyworded (h : sim.places (.object members) p q)
    (hin : sim.Entered p q value p' q') (hbelow : sim.Reads p q sim.SameTree below below')
    (key : String) (keyword : Keyword) :
    sim.outcomes sim.SameTree (Criterion.keyworded below members p p' key keyword value)
      (Criterion.keyworded below' members q q' key keyword value) := by
  have hchild := hin.2.2
  have hdeeper : sim.Reads p' q' sim.SameTree below below' := hbelow.of_entered hin
  have hmark := sim.mark_eq hchild
  cases keyword with
  | field path =>
    refine sim.bind (fieldPath hchild path) ?_
    intro segments segments' heq
    subst heq
    rw [sim.source_eq h]
    refine sim.bind (fieldBelow hchild q.source segments) ?_
    intro source source' heq
    subst heq
    exact hbelow value _ _ (Entered.withSource hin source)
  | order operator => exact tested h hchild key (literal_ofJson hchild)
  | equal => exact tested h hchild key (literal_ofJson hchild)
  | any => exact tested h hchild key (literalList hchild key)
  | all => exact tested h hchild key (literalList hchild key)
  | startsWith => exact tested h hchild key (stringOf hchild key value)
  | inside => exact tested h hchild key (literal_areaOfJson hchild)
  | and =>
    refine sim.bind (criteriaList hchild hdeeper key) fun cs ds hall => sim.ok ?_
    rw [SameTree, Criterion.map, Criterion.map, maps_eq_map, maps_eq_map, hmark,
      map_eq_of_forall₂ hall]
  | or =>
    refine sim.bind (criteriaList hchild hdeeper key) fun cs ds hall => sim.ok ?_
    rw [SameTree, Criterion.map, Criterion.map, maps_eq_map, maps_eq_map, hmark,
      map_eq_of_forall₂ hall]
  | not =>
    refine sim.bind (hbelow value _ _ hin) fun c d hcd => sim.ok ?_
    rw [SameTree, Criterion.map, Criterion.map, hmark, hcd]
  | installation =>
    refine sim.bind (needRoot h hchild key) fun _ _ _ => ?_
    exact hbelow value _ _ (Entered.withSource hin _)
  | user =>
    refine sim.bind (needRoot h hchild key) fun _ _ _ => ?_
    exact hbelow value _ _ (Entered.withSource hin _)
  | event =>
    refine sim.bind (needRoot h hchild key) fun _ _ _ => ?_
    refine sim.bind (hbelow value _ _ (Entered.withSource hin _)) fun c d hcd => sim.ok ?_
    rw [SameTree, Criterion.map, Criterion.map, hmark, hcd]
  | lastActivity =>
    refine sim.bind (needOwner h hchild key) fun _ _ _ => ?_
    rw [sim.source_eq h]
    exact hbelow value _ _ (Entered.withSource hin _)
  | geo =>
    refine sim.bind (needOwner h hchild key) fun _ _ _ => ?_
    exact geoOf hchild hdeeper
  | subscription =>
    refine sim.bind (needOwner h hchild key) fun _ _ _ => ?_
    refine sim.bind (statusOf hchild key value) ?_
    intro status status' heq
    subst heq
    refine sim.ok ?_
    rw [SameTree, Criterion.map, Criterion.map, hmark, sim.source_eq h]
  | presence =>
    unfold Criterion.keyworded
    dsimp only
    split
    · exact presenceBeside h hchild hbelow _
    · exact presenceWithin hchild hdeeper
    · exact sim.reject hchild _

theorem member (h : sim.places (.object members) p q)
    (hbelow : sim.Reads p q sim.SameTree below below') (hmem : (key, value) ∈ members) :
    sim.outcomes sim.SameTree (Criterion.member below members p key value)
      (Criterion.member below' members q key value) := by
  unfold Criterion.member
  refine sim.bind (sim.key h hmem) fun p' q' hin => ?_
  split
  · exact keyworded h hin hbelow key _
  · exact sim.reject hin.2.2 _

theorem parts (h : sim.places (.object members) p q)
    (hbelow : sim.Reads p q sim.SameTree below below') :
    ∀ rest : List (String × Json), (∀ entry ∈ rest, entry ∈ members) →
      sim.outcomes (List.Forall₂ sim.SameTree) (Criterion.parts below members p rest)
        (Criterion.parts below' members q rest) := by
  intro rest
  induction rest with
  | nil =>
    intro _
    exact sim.ok .nil
  | cons entry rest ih =>
    intro hrest
    obtain ⟨key, value⟩ := entry
    have hmem := hrest (key, value) List.mem_cons_self
    have hall := ih fun other hother => hrest other (List.mem_cons_of_mem _ hother)
    unfold Criterion.parts
    split
    · split
      · exact hall
      · exact sim.bind (sim.key h hmem) fun p' q' hin => sim.reject hin.2.2 _
    · refine sim.bind (member h hbelow hmem) fun c d hcd => ?_
      exact sim.bind hall fun cs ds hcds => sim.ok (.cons hcd hcds)

/-- Readings of one level correspond if those below it do. -/
theorem level (h : sim.places json p q) (hbelow : sim.Reads p q sim.SameTree below below') :
    sim.outcomes sim.SameTree (Criterion.level below json p) (Criterion.level below' json q) := by
  unfold Criterion.level
  split
  · refine sim.ok ?_
    rw [SameTree, Criterion.map, Criterion.map, sim.mark_eq h]
  · refine sim.bind (parts h hbelow _ fun entry hentry => hentry) fun cs ds hall => ?_
    exact sim.ok (sameTree_allOf h hall)
  · exact sim.reject h _

/-! ### All levels -/

/-- No place can be entered from one at which no level is left. -/
theorem reads_of_no_level {α β : Type} {results : α → β → Prop}
    {read : Json → Place → Except Rejection α} {read' : Json → Place → Except Rejection β}
    (h : p.limits.maxDepth ≤ p.depth ∨ q.limits.maxDepth ≤ q.depth) :
    sim.Reads p q results read read' := by
  intro json p' q' hin
  have hp := hin.1
  have hq := hin.2.1
  have := hp.depth_lt
  have := hp.depth_le
  have := hq.depth_lt
  have := hq.depth_le
  omega

/-- Readings of criteria correspond, whatever number of levels each is given, as long as it is
enough. -/
theorem readWithin : ∀ (levels levels' : Nat) (json : Json) (p q : Place),
    p.limits.maxDepth - p.depth ≤ levels → q.limits.maxDepth - q.depth ≤ levels' →
    sim.places json p q →
    sim.outcomes sim.SameTree (Criterion.readWithin levels json p)
      (Criterion.readWithin levels' json q) := by
  intro levels
  induction levels with
  | zero =>
    intro levels' json p q hp _ h
    cases levels' <;> exact level h (reads_of_no_level (by omega))
  | succ levels ih =>
    intro levels' json p q hp hq h
    cases levels' with
    | zero => exact level h (reads_of_no_level (by omega))
    | succ levels' =>
      refine level h fun inner p' q' hin => ih levels' inner p' q' ?_ ?_ hin.2.2
      · have := hin.1.depth_lt
        rw [hin.1.limits_eq]
        omega
      · have := hin.2.1.depth_lt
        rw [hin.2.1.limits_eq]
        omega

theorem read (h : sim.places json p q) :
    sim.outcomes sim.SameTree (Criterion.read json p) (Criterion.read json q) :=
  readWithin _ _ json p q (Nat.le_refl _) (Nat.le_refl _) h

end Audience.Simulation
