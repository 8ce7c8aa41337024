import Audience.Literal
import Audience.Subject.Record

/-!
# Criteria

* **`Operator`** and **`Test`**: what can be asked of one value.
* **`Criterion`**: the tree of a segmentation rule. Every node carries a mark: the place it was read
  at, or nothing when only its meaning counts.
* **`Criterion.children`**, **`Criterion.nodeCount`**, **`Criterion.depth`**: its shape.
* **`Criterion.map`**: the same tree with other marks.
-/

namespace Audience

/-- An order that a value is to stand in to a literal. -/
inductive Operator
  | greater
  | greaterOrEqual
  | less
  | lessOrEqual
  deriving DecidableEq

namespace Operator

/-- The key of an operator. -/
def key : Operator → String
  | greater => "gt"
  | greaterOrEqual => "gte"
  | less => "lt"
  | lessOrEqual => "lte"

/-- The operator of a key. -/
def ofKey? (key : String) : Option Operator :=
  if key = "gt" then some greater
  else if key = "gte" then some greaterOrEqual
  else if key = "lt" then some less
  else if key = "lte" then some lessOrEqual
  else none

/-- Whether an order satisfies the operator. -/
def accepts : Operator → Ordering → Bool
  | greater, order => order == .gt
  | greaterOrEqual, order => order != .lt
  | less, order => order == .lt
  | lessOrEqual, order => order != .gt

end Operator

/-- What can be asked of one value. -/
inductive Test
  | equal (value : Literal)
  | any (values : List Literal)
  | all (values : List Literal)
  | order (operator : Operator) (value : Literal)
  | startsWith (front : String)
  | inside (area : Geo.Area)
  deriving DecidableEq

/-- A segmentation rule, each node with a mark. -/
inductive Criterion (α : Type)
  /-- Holds of every subject. -/
  | matchAll (mark : α)
  | and (mark : α) (parts : List (Criterion α))
  | or (mark : α) (parts : List (Criterion α))
  | not (mark : α) (inner : Criterion α)
  /-- Holds when the value of a source passes a test. -/
  | test (mark : α) (source : Source) (test : Test)
  /-- Holds when a source has a value or has none, and of a value, when the instant of its last change
  and the time since then meet what is asked of them. -/
  | presence (mark : α) (source : Source) (present : Bool)
      (sinceDate elapsedTime : Option (Criterion α))
  /-- Holds when some event of the subject meets the criterion. -/
  | someEvent (mark : α) (inner : Criterion α)
  | subscription (mark : α) (source : Source) (status : SubscriptionStatus)

namespace Criterion

variable {α β : Type}

/-- The mark of the topmost node. -/
def mark : Criterion α → α
  | matchAll mark | and mark _ | or mark _ | not mark _ | test mark _ _ | presence mark _ _ _ _
  | someEvent mark _ | subscription mark _ _ => mark

/-- The nodes right below the topmost one. -/
def children : Criterion α → List (Criterion α)
  | and _ parts | or _ parts => parts
  | not _ inner | someEvent _ inner => [inner]
  | presence _ _ _ sinceDate elapsedTime => sinceDate.toList ++ elapsedTime.toList
  | _ => []

mutual

/-- The number of nodes. -/
def nodeCount : Criterion α → Nat
  | matchAll _ | test _ _ _ | subscription _ _ _ => 1
  | and _ parts | or _ parts => 1 + nodeCounts parts
  | not _ inner | someEvent _ inner => 1 + nodeCount inner
  | presence _ _ _ sinceDate elapsedTime => 1 + nodeCountOf sinceDate + nodeCountOf elapsedTime

/-- The number of nodes of several trees. -/
def nodeCounts : List (Criterion α) → Nat
  | [] => 0
  | part :: rest => nodeCount part + nodeCounts rest

/-- The number of nodes of a tree that may be missing. -/
def nodeCountOf : Option (Criterion α) → Nat
  | none => 0
  | some inner => nodeCount inner

end

mutual

/-- The number of nodes on the longest way down. -/
def depth : Criterion α → Nat
  | matchAll _ | test _ _ _ | subscription _ _ _ => 1
  | and _ parts | or _ parts => 1 + depths parts
  | not _ inner | someEvent _ inner => 1 + depth inner
  | presence _ _ _ sinceDate elapsedTime => 1 + max (depthOf sinceDate) (depthOf elapsedTime)

/-- The largest depth among several trees. -/
def depths : List (Criterion α) → Nat
  | [] => 0
  | part :: rest => max (depth part) (depths rest)

/-- The depth of a tree that may be missing. -/
def depthOf : Option (Criterion α) → Nat
  | none => 0
  | some inner => depth inner

end

mutual

/-- The tree with a function applied to its marks. -/
def map (f : α → β) : Criterion α → Criterion β
  | matchAll mark => matchAll (f mark)
  | and mark parts => and (f mark) (maps f parts)
  | or mark parts => or (f mark) (maps f parts)
  | not mark inner => not (f mark) (map f inner)
  | test mark source question => test (f mark) source question
  | presence mark source present sinceDate elapsedTime =>
      presence (f mark) source present (mapOf f sinceDate) (mapOf f elapsedTime)
  | someEvent mark inner => someEvent (f mark) (map f inner)
  | subscription mark source status => subscription (f mark) source status

/-- The trees with a function applied to their marks. -/
def maps (f : α → β) : List (Criterion α) → List (Criterion β)
  | [] => []
  | part :: rest => map f part :: maps f rest

/-- The tree that may be missing with a function applied to its marks. -/
def mapOf (f : α → β) : Option (Criterion α) → Option (Criterion β)
  | none => none
  | some inner => some (map f inner)

end

mutual

/-- All nodes, a node before those below it. -/
def nodes : Criterion α → List (Criterion α)
  | node@(matchAll _) | node@(test _ _ _) | node@(subscription _ _ _) => [node]
  | node@(and _ parts) | node@(or _ parts) => node :: nodesOfAll parts
  | node@(not _ inner) | node@(someEvent _ inner) => node :: nodes inner
  | node@(presence _ _ _ sinceDate elapsedTime) =>
      node :: (nodesOf sinceDate ++ nodesOf elapsedTime)

/-- All nodes of several trees. -/
def nodesOfAll : List (Criterion α) → List (Criterion α)
  | [] => []
  | part :: rest => nodes part ++ nodesOfAll rest

/-- All nodes of a tree that may be missing. -/
def nodesOf : Option (Criterion α) → List (Criterion α)
  | none => []
  | some inner => nodes inner

end

end Criterion

end Audience
