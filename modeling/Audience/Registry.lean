import Audience.Criterion.Document
import Audience.Verdict

/-!
# The registry of segments

* **`Registry`**: the registered segments in the order of their numbers. A number counts the
  registrations before it and is never given again.
* **`Registry.register`**, **`Registry.get?`**, **`Registry.remove`**: the operations.
* **`Registry.membersOf`**: the numbers of the segments a subject belongs to.
-/

namespace Audience

/-- A segment: its number, its name, its document and the criterion read from it. -/
structure Segment where
  number : Nat
  name : String
  document : Json
  criterion : PlacedCriterion

/-- The registered segments, and how many there have ever been. -/
structure Registry where
  limits : Limits
  registered : Nat
  segments : List Segment

namespace Registry

/-- The registry without segments. -/
def empty (limits : Limits) : Registry := ⟨limits, 0, []⟩

/-- Registers a document under a name; a document that is refused leaves the registry as it is. -/
def register (registry : Registry) (name : String) (document : Json) :
    Except Rejection (Nat × Registry) := do
  let criterion ← Criterion.ofJson registry.limits document
  let segment : Segment := ⟨registry.registered, name, document, criterion⟩
  return (registry.registered,
    { registry with
      registered := registry.registered + 1
      segments := registry.segments ++ [segment] })

/-- The segment with a number. -/
def get? (registry : Registry) (number : Nat) : Option Segment :=
  registry.segments.find? fun segment => segment.number = number

/-- The registry without the segment with a number. -/
def remove (registry : Registry) (number : Nat) : Registry :=
  { registry with segments := registry.segments.filter fun segment => segment.number ≠ number }

/-- The numbers of the segments. -/
def numbers (registry : Registry) : List Nat := registry.segments.map Segment.number

/-- The numbers of the segments a subject belongs to at an instant. -/
def membersOf (registry : Registry) (subject : Subject) (now : Int) : List Nat :=
  (registry.segments.filter fun segment => segment.criterion.isMetBy subject now).map Segment.number

end Registry

end Audience
