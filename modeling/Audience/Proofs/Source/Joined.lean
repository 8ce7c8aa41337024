import Audience.Proofs.Criterion.Tree

/-!
# Chains of fields joined

A field below a field and the field under the joined path are different sources that hold the same.

* **`Source.joined`**: the source with every chain of fields in it made one field.
* **`Source.isRoot_joined`** and the like: joining does not change the kind of a source.
* **`Situation.resolve_joined`**: joining does not change what a source holds.
* **`Criterion.joined`**: the tree with its sources joined. **`Criterion.holds_joined`**,
  **`Criterion.nodeCount_joined`**: its verdict and its size are the same.
-/

namespace Audience

/-! ### Joined sources -/

namespace Source

/-- The field under a path below a source, as part of the field that the source is, if it is one. -/
def extend : Source → List String → Source
  | field start front, path => field start (front ++ path)
  | start, path => field start path

/-- The source with every chain of fields in it made one field. -/
def joined : Source → Source
  | installation => installation
  | user => user
  | event => event
  | lastActivity parent => lastActivity parent.joined
  | field parent path => parent.joined.extend path
  | sinceDate parent => sinceDate parent.joined
  | elapsedTime parent => elapsedTime parent.joined
  | location parent => location parent.joined
  | locationDate parent => locationDate parent.joined

theorem extend_extend (start : Source) (front back : List String) :
    (start.extend front).extend back = start.extend (front ++ back) := by
  cases start with
  | field start path => exact congrArg (field start) (List.append_assoc path front back)
  | _ => rfl

theorem isField_extend (start : Source) (path : List String) : (start.extend path).isField := by
  cases start <;> rfl

theorem isRoot_joined (s : Source) : s.joined.isRoot = s.isRoot := by
  cases s with
  | field parent path => rw [joined]; cases parent.joined <;> rfl
  | _ => rfl

theorem isOwner_joined (s : Source) : s.joined.isOwner = s.isOwner := by
  cases s with
  | field parent path => rw [joined]; cases parent.joined <;> rfl
  | _ => rfl

theorem isField_joined (s : Source) : s.joined.isField = s.isField := by
  cases s with
  | field parent path => exact isField_extend _ _
  | _ => rfl

theorem isDate_joined (s : Source) : s.joined.isDate = s.isDate := by
  cases s with
  | field parent path => rw [joined]; cases parent.joined <;> rfl
  | _ => rfl

theorem isDuration_joined (s : Source) : s.joined.isDuration = s.isDuration := by
  cases s with
  | field parent path => rw [joined]; cases parent.joined <;> rfl
  | _ => rfl

theorem hasFields_joined (s : Source) : s.joined.hasFields = s.hasFields := by
  rw [hasFields, hasFields, isRoot_joined, isField_joined]

end Source

/-! ### What joined sources hold -/

namespace Situation

variable (situation : Situation)

theorem fieldChain_extend (start : Source) (front back : List String) :
    fieldChain (start.extend front) back = fieldChain start (front ++ back) := by
  cases start with
  | field start path =>
    show fieldChain start ((path ++ front) ++ back) = fieldChain start (path ++ (front ++ back))
    rw [List.append_assoc]
  | _ => rfl

/-- Joined, a chain of fields starts where it did and leads along the same path. -/
theorem fieldChain_joined (source : Source) (path : List String) :
    fieldChain source.joined path =
      ((fieldChain source path).1.joined, (fieldChain source path).2) := by
  induction source generalizing path with
  | field parent front ih => exact (fieldChain_extend _ _ _).trans (ih (front ++ path))
  | _ => rfl

theorem scope?_joined (source : Source) : situation.scope? source.joined = situation.scope? source := by
  cases source with
  | field parent path => rw [Source.joined]; cases parent.joined <;> rfl
  | _ => rfl

theorem resolve_extend (start : Source) (path : List String) :
    situation.resolve (start.extend path) = situation.resolve (.field start path) := by
  cases start <;> rfl

theorem resolve_joined (source : Source) :
    situation.resolve source.joined = situation.resolve source := by
  induction source with
  | installation | user | event => rfl
  | field parent path _ =>
    rw [Source.joined, resolve_extend, resolve, resolve, resolveField, resolveField,
      fieldChain_joined]
    dsimp only
    rw [scope?_joined]
  | lastActivity parent | location parent | locationDate parent =>
    rw [Source.joined, resolve, resolve, scope?_joined]
  | sinceDate parent ih | elapsedTime parent ih => rw [Source.joined, resolve, resolve, ih]

theorem observe_joined (source : Source) :
    situation.observe source.joined = situation.observe source := by
  rw [observe, observe, resolve_joined]

end Situation

/-! ### Trees with joined sources -/

namespace Criterion

variable {α : Type}

mutual

/-- The tree with its sources joined. -/
def joined : Criterion α → Criterion α
  | matchAll mark => matchAll mark
  | and mark parts => and mark (joinedAll parts)
  | or mark parts => or mark (joinedAll parts)
  | not mark inner => not mark (joined inner)
  | test mark source question => test mark source.joined question
  | presence mark source present sinceDate elapsedTime =>
      presence mark source.joined present (joinedOf sinceDate) (joinedOf elapsedTime)
  | someEvent mark inner => someEvent mark (joined inner)
  | subscription mark source status => subscription mark source.joined status

/-- Several trees with their sources joined. -/
def joinedAll : List (Criterion α) → List (Criterion α)
  | [] => []
  | part :: rest => joined part :: joinedAll rest

/-- A tree that may be missing with its sources joined. -/
def joinedOf : Option (Criterion α) → Option (Criterion α)
  | none => none
  | some inner => some (joined inner)

end

theorem joinedAll_eq_map (parts : List (Criterion α)) : joinedAll parts = parts.map joined := by
  induction parts with
  | nil => rfl
  | cons part rest ih => rw [joinedAll, ih, List.map_cons]

theorem joinedOf_eq_map (inner : Option (Criterion α)) : joinedOf inner = inner.map joined := by
  cases inner <;> rfl

theorem joined_allOf (mark : α) (parts : List (Criterion α)) :
    (allOf mark parts).joined = allOf mark (parts.map joined) := by
  match parts with
  | [] | [part] => rfl
  | first :: second :: rest =>
    show joined (and mark (first :: second :: rest)) = and mark _
    rw [joined, joinedAll_eq_map]
    rfl

mutual

theorem nodeCount_joined (c : Criterion α) : c.joined.nodeCount = c.nodeCount := by
  cases c with
  | matchAll mark => rfl
  | and mark parts => rw [joined, nodeCount, nodeCount, nodeCounts_joinedAll]
  | or mark parts => rw [joined, nodeCount, nodeCount, nodeCounts_joinedAll]
  | not mark inner => rw [joined, nodeCount, nodeCount, nodeCount_joined]
  | test mark source question => rfl
  | presence mark source present sinceDate elapsedTime =>
    rw [joined, nodeCount, nodeCount, nodeCountOf_joinedOf, nodeCountOf_joinedOf]
  | someEvent mark inner => rw [joined, nodeCount, nodeCount, nodeCount_joined]
  | subscription mark source status => rfl

theorem nodeCounts_joinedAll (parts : List (Criterion α)) :
    nodeCounts (joinedAll parts) = nodeCounts parts := by
  cases parts with
  | nil => rfl
  | cons part rest =>
    rw [joinedAll, nodeCounts, nodeCounts, nodeCount_joined, nodeCounts_joinedAll]

theorem nodeCountOf_joinedOf (inner : Option (Criterion α)) :
    nodeCountOf (joinedOf inner) = nodeCountOf inner := by
  cases inner with
  | none => rfl
  | some inner => rw [joinedOf, nodeCountOf, nodeCountOf, nodeCount_joined]

end

mutual

theorem holds_joined (situation : Situation) (c : Criterion α) :
    c.joined.holds situation = c.holds situation := by
  cases c with
  | matchAll mark => rfl
  | and mark parts => rw [joined, holds, holds, allHold_joinedAll]
  | or mark parts => rw [joined, holds, holds, someHolds_joinedAll]
  | not mark inner => rw [joined, holds, holds, holds_joined]
  | test mark source question =>
    rw [joined, holds, holds, testHolds, testHolds, Situation.resolve_joined]
  | presence mark source present sinceDate elapsedTime =>
    rw [joined, holds, holds, Situation.observe_joined, holdsIfGiven_joinedOf,
      holdsIfGiven_joinedOf]
  | someEvent mark inner =>
    rw [joined, holds, holds]
    congr 1
    funext event
    exact holds_joined (situation.withEvent event) inner
  | subscription mark source status =>
    rw [joined, holds, holds, subscriptionHolds, subscriptionHolds, Situation.resolve_joined]

theorem allHold_joinedAll (situation : Situation) (parts : List (Criterion α)) :
    allHold situation (joinedAll parts) = allHold situation parts := by
  cases parts with
  | nil => rfl
  | cons part rest => rw [joinedAll, allHold, allHold, holds_joined, allHold_joinedAll]

theorem someHolds_joinedAll (situation : Situation) (parts : List (Criterion α)) :
    someHolds situation (joinedAll parts) = someHolds situation parts := by
  cases parts with
  | nil => rfl
  | cons part rest => rw [joinedAll, someHolds, someHolds, holds_joined, someHolds_joinedAll]

theorem holdsIfGiven_joinedOf (situation : Situation) (inner : Option (Criterion α)) :
    holdsIfGiven situation (joinedOf inner) = holdsIfGiven situation inner := by
  cases inner with
  | none => rfl
  | some inner => rw [joinedOf, holdsIfGiven, holdsIfGiven, holds_joined]

end

end Criterion

end Audience
