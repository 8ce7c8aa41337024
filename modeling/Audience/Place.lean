import Audience.Rejection
import Audience.Source

/-!
# Places in a document

A place is where a reader stands: the steps from the root of the document, the source that criteria
apply to there, and the limits in force.

* **`Place.key`**, **`Place.index`**: one step down, refused where it would pass the depth limit.
* **`Place.reject`**: a refusal here.
-/

namespace Audience

/-- The limits on accepted documents. -/
structure Limits where
  /-- How many steps may lead from the root to any place that is read. -/
  maxDepth : Nat
  /-- How many nodes a criterion may have. -/
  maxNodes : Nat
  deriving DecidableEq

/-- The limits in force where none are given. -/
def Limits.standard : Limits := ⟨64, 10000⟩

instance : Inhabited Limits := ⟨Limits.standard⟩

/-- Where a reader stands. -/
structure Place where
  /-- What criteria apply to here. -/
  source : Source
  /-- The steps from the root, the last one first. -/
  trail : List Step
  limits : Limits
  deriving DecidableEq

namespace Place

/-- The root of a document, where criteria apply to the installation. -/
def root (limits : Limits) : Place := ⟨.installation, [], limits⟩

instance : Inhabited Place := ⟨root .standard⟩

/-- How many steps lead here from the root. -/
def depth (place : Place) : Nat := place.trail.length

/-- The steps from the root. -/
def steps (place : Place) : List Step := place.trail.reverse

/-- The path from the root. -/
def path (place : Place) : String := pathText place.steps

/-- The refusal of what stands here. -/
def rejection (place : Place) (cause : Rejection.Cause) : Rejection := ⟨cause, place.steps⟩

/-- Refuses what stands here. -/
def reject {α : Type} (place : Place) (cause : Rejection.Cause) : Except Rejection α :=
  .error (place.rejection cause)

/-- The same place, with criteria applying to another source. -/
def withSource (place : Place) (source : Source) : Place := { place with source }

/-- The place one step down, if the depth limit allows it. -/
def enter (place : Place) (step : Step) : Except Rejection Place :=
  if place.depth < place.limits.maxDepth then .ok { place with trail := step :: place.trail }
  else place.reject (.nestedTooDeep place.limits.maxDepth)

/-- The place of a member. -/
def key (place : Place) (name : String) : Except Rejection Place := place.enter (.key name)

/-- The place of an item. -/
def index (place : Place) (position : Nat) : Except Rejection Place := place.enter (.index position)

end Place

end Audience
