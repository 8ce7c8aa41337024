import Audience.Criterion.Document
import Audience.Verdict

/-!
# Shapes and marks of trees

* **`Criterion.depth_le_succ_iff`**, **`Criterion.mem_nodes_iff`**: depth and nodes of a tree by those
  of its children. **`Criterion.induction_children`**: induction on a tree by them.
* **`Criterion.maps_eq_map`**, **`Criterion.mapOf_eq_map`**: changing the marks of several trees, or
  of one that may be missing, is changing those of each.
* **`Criterion.map_id`**, **`Criterion.map_map`**, **`Criterion.map_allOf`**: marks that stay, marks
  changed twice, and marks of a conjunction.
* **`Criterion.nodeCount_map`**: other marks, as many nodes.
* **`Criterion.holds_map`**: marks have no part in the verdict.
* **`Criterion.allHold_eq_all`**, **`Criterion.someHolds_eq_any`**: verdicts on several trees are those
  on each.
-/

namespace Audience.Criterion

variable {α β γ : Type} {f : α → β}

/-! ### Trees by their children -/

section

variable {node c : Criterion α} {k : Nat}

theorem depths_le_iff {parts : List (Criterion α)} :
    depths parts ≤ k ↔ ∀ part ∈ parts, part.depth ≤ k := by
  induction parts with
  | nil => simp [depths]
  | cons part rest ih => rw [depths, Nat.max_le, ih, List.forall_mem_cons]

theorem depthOf_le_iff {inner : Option (Criterion α)} :
    depthOf inner ≤ k ↔ ∀ part ∈ inner.toList, part.depth ≤ k := by
  cases inner <;> simp [depthOf]

theorem depth_le_succ_iff : c.depth ≤ k + 1 ↔ ∀ inner ∈ c.children, inner.depth ≤ k := by
  have hone : ∀ m, 1 + m ≤ k + 1 ↔ m ≤ k := by omega
  cases c with
  | and mark parts => rw [depth, hone, depths_le_iff]; rfl
  | or mark parts => rw [depth, hone, depths_le_iff]; rfl
  | not mark inner => rw [depth, hone]; simp [children]
  | someEvent mark inner => rw [depth, hone]; simp [children]
  | presence mark source present sinceDate elapsedTime =>
    rw [depth, hone, Nat.max_le, depthOf_le_iff, depthOf_le_iff]
    simp only [children, List.mem_append, or_imp, forall_and]
  | _ => simp [depth, children]

theorem depth_pos (c : Criterion α) : 1 ≤ c.depth := by
  cases c <;> simp [depth]

theorem mem_nodesOfAll_iff {parts : List (Criterion α)} :
    node ∈ nodesOfAll parts ↔ ∃ part ∈ parts, node ∈ part.nodes := by
  induction parts with
  | nil => simp [nodesOfAll]
  | cons part rest ih => simp [nodesOfAll, ih]

theorem mem_nodesOf_iff {inner : Option (Criterion α)} :
    node ∈ nodesOf inner ↔ ∃ part ∈ inner.toList, node ∈ part.nodes := by
  cases inner <;> simp [nodesOf]

theorem mem_nodes_iff : node ∈ c.nodes ↔ node = c ∨ ∃ inner ∈ c.children, node ∈ inner.nodes := by
  cases c with
  | and mark parts => rw [nodes, List.mem_cons, mem_nodesOfAll_iff]; rfl
  | or mark parts => rw [nodes, List.mem_cons, mem_nodesOfAll_iff]; rfl
  | presence mark source present sinceDate elapsedTime =>
    rw [nodes, List.mem_cons, List.mem_append, mem_nodesOf_iff, mem_nodesOf_iff]
    simp only [children, List.mem_append, or_and_right, exists_or]
  | _ => simp [nodes, children]

/-- What holds of a tree when it holds of its children holds of every tree. -/
theorem induction_children {motive : Criterion α → Prop}
    (step : ∀ c, (∀ inner ∈ c.children, motive inner) → motive c) (c : Criterion α) : motive c := by
  have hbounded : ∀ k, ∀ c : Criterion α, c.depth ≤ k → motive c := by
    intro k
    induction k with
    | zero =>
      intro c hdepth
      have := c.depth_pos
      omega
    | succ k ih =>
      intro c hdepth
      exact step c fun inner hmem => ih inner (depth_le_succ_iff.1 hdepth inner hmem)
  exact hbounded c.depth c (Nat.le_refl _)

end

/-! ### Other marks -/

theorem maps_eq_map (f : α → β) (parts : List (Criterion α)) :
    maps f parts = parts.map (map f) := by
  induction parts with
  | nil => rfl
  | cons part rest ih => rw [maps, ih, List.map_cons]

theorem mapOf_eq_map (f : α → β) (inner : Option (Criterion α)) :
    mapOf f inner = inner.map (map f) := by
  cases inner <;> rfl

theorem map_allOf (mark : α) (parts : List (Criterion α)) :
    (allOf mark parts).map f = allOf (f mark) (parts.map (map f)) := by
  match parts with
  | [] => rfl
  | [part] => rfl
  | first :: second :: rest =>
    show map f (and mark (first :: second :: rest)) = and (f mark) _
    rw [map, maps_eq_map]
    rfl

mutual

theorem map_id (c : Criterion α) : c.map id = c := by
  cases c with
  | matchAll mark => rfl
  | and mark parts => rw [map, maps_id, id]
  | or mark parts => rw [map, maps_id, id]
  | not mark inner => rw [map, map_id, id]
  | test mark source question => rfl
  | presence mark source present sinceDate elapsedTime => rw [map, mapOf_id, mapOf_id, id]
  | someEvent mark inner => rw [map, map_id, id]
  | subscription mark source status => rfl

theorem maps_id (parts : List (Criterion α)) : maps id parts = parts := by
  cases parts with
  | nil => rfl
  | cons part rest => rw [maps, map_id, maps_id]

theorem mapOf_id (inner : Option (Criterion α)) : mapOf id inner = inner := by
  cases inner with
  | none => rfl
  | some inner => rw [mapOf, map_id]

end

mutual

theorem map_map (f : α → β) (g : β → γ) (c : Criterion α) :
    (c.map f).map g = c.map fun mark => g (f mark) := by
  cases c with
  | matchAll mark => rfl
  | and mark parts => rw [map, map, map, maps_maps]
  | or mark parts => rw [map, map, map, maps_maps]
  | not mark inner => rw [map, map, map, map_map]
  | test mark source question => rfl
  | presence mark source present sinceDate elapsedTime =>
    rw [map, map, map, mapOf_mapOf, mapOf_mapOf]
  | someEvent mark inner => rw [map, map, map, map_map]
  | subscription mark source status => rfl

theorem maps_maps (f : α → β) (g : β → γ) (parts : List (Criterion α)) :
    maps g (maps f parts) = maps (fun mark => g (f mark)) parts := by
  cases parts with
  | nil => rfl
  | cons part rest => rw [maps, maps, maps, map_map, maps_maps]

theorem mapOf_mapOf (f : α → β) (g : β → γ) (inner : Option (Criterion α)) :
    mapOf g (mapOf f inner) = mapOf (fun mark => g (f mark)) inner := by
  cases inner with
  | none => rfl
  | some inner => rw [mapOf, mapOf, mapOf, map_map]

end

mutual

theorem nodeCount_map (c : Criterion α) : (c.map f).nodeCount = c.nodeCount := by
  cases c with
  | matchAll mark => rfl
  | and mark parts => rw [map, nodeCount, nodeCount, nodeCounts_maps]
  | or mark parts => rw [map, nodeCount, nodeCount, nodeCounts_maps]
  | not mark inner => rw [map, nodeCount, nodeCount, nodeCount_map]
  | test mark source question => rfl
  | presence mark source present sinceDate elapsedTime =>
    rw [map, nodeCount, nodeCount, nodeCountOf_mapOf, nodeCountOf_mapOf]
  | someEvent mark inner => rw [map, nodeCount, nodeCount, nodeCount_map]
  | subscription mark source status => rfl

theorem nodeCounts_maps (parts : List (Criterion α)) :
    nodeCounts (maps f parts) = nodeCounts parts := by
  cases parts with
  | nil => rfl
  | cons part rest => rw [maps, nodeCounts, nodeCounts, nodeCount_map, nodeCounts_maps]

theorem nodeCountOf_mapOf (inner : Option (Criterion α)) :
    nodeCountOf (mapOf f inner) = nodeCountOf inner := by
  cases inner with
  | none => rfl
  | some inner => rw [mapOf, nodeCountOf, nodeCountOf, nodeCount_map]

end

mutual

/-- The verdict does not depend on the marks. -/
theorem holds_map (situation : Situation) (c : Criterion α) :
    (c.map f).holds situation = c.holds situation := by
  cases c with
  | matchAll mark => rfl
  | and mark parts => rw [map, holds, holds, allHold_maps]
  | or mark parts => rw [map, holds, holds, someHolds_maps]
  | not mark inner => rw [map, holds, holds, holds_map]
  | test mark source question => rfl
  | presence mark source present sinceDate elapsedTime =>
    rw [map, holds, holds, holdsIfGiven_mapOf, holdsIfGiven_mapOf]
  | someEvent mark inner =>
    rw [map, holds, holds]
    congr 1
    funext event
    exact holds_map _ inner
  | subscription mark source status => rfl

theorem allHold_maps (situation : Situation) (parts : List (Criterion α)) :
    allHold situation (maps f parts) = allHold situation parts := by
  cases parts with
  | nil => rfl
  | cons part rest => rw [maps, allHold, allHold, holds_map, allHold_maps]

theorem someHolds_maps (situation : Situation) (parts : List (Criterion α)) :
    someHolds situation (maps f parts) = someHolds situation parts := by
  cases parts with
  | nil => rfl
  | cons part rest => rw [maps, someHolds, someHolds, holds_map, someHolds_maps]

theorem holdsIfGiven_mapOf (situation : Situation) (inner : Option (Criterion α)) :
    holdsIfGiven situation (mapOf f inner) = holdsIfGiven situation inner := by
  cases inner with
  | none => rfl
  | some inner => rw [mapOf, holdsIfGiven, holdsIfGiven, holds_map]

end

theorem allHold_eq_all (situation : Situation) (parts : List (Criterion α)) :
    allHold situation parts = (parts.map (holds situation)).all id := by
  induction parts with
  | nil => rfl
  | cons part rest ih => rw [allHold, ih, List.map_cons, List.all_cons, id]

theorem someHolds_eq_any (situation : Situation) (parts : List (Criterion α)) :
    someHolds situation parts = (parts.map (holds situation)).any id := by
  induction parts with
  | nil => rfl
  | cons part rest ih => rw [someHolds, ih, List.map_cons, List.any_cons, id]

end Audience.Criterion
