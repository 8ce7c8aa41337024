import Audience.Criterion.Document
import Audience.Proofs.Place.Descent

/-!
# Simulations of readings

Readings of a document at two places go through the same steps and differ only in what the places
bring in. A simulation says which places and which outcomes correspond. It asks for no more than that
the steps of a reader keep to the correspondence, so that it can be shown step by step for a whole
reader, whatever the correspondence is.

* **`Alike`**: outcomes that are both results or both rejections.
* **`Simulation`**: corresponding places and outcomes, closed under everything a reader does with
  them.
* **`Simulation.Entered`**, **`Simulation.Reads`**: corresponding places further down, and readers
  that correspond at all of them.
-/

namespace Audience

/-! ### Outcomes -/

/-- Outcomes of one kind: corresponding results, or corresponding rejections. -/
inductive Alike {α β : Type} (rejections : Rejection → Rejection → Prop) (results : α → β → Prop) :
    Except Rejection α → Except Rejection β → Prop
  | ok {a : α} {b : β} (h : results a b) : Alike rejections results (.ok a) (.ok b)
  | error {r r' : Rejection} (h : rejections r r') : Alike rejections results (.error r) (.error r')

namespace Alike

variable {α β α' β' : Type} {rejections : Rejection → Rejection → Prop}
variable {results : α → β → Prop} {results' : α' → β' → Prop}

theorem bind {x : Except Rejection α} {y : Except Rejection β} {f : α → Except Rejection α'}
    {g : β → Except Rejection β'} (h : Alike rejections results x y)
    (next : ∀ a b, results a b → Alike rejections results' (f a) (g b)) :
    Alike rejections results' (x >>= f) (y >>= g) := by
  cases h with
  | ok h => exact next _ _ h
  | error h => exact .error h

/-- An outcome corresponds to itself if its result or rejection does. -/
theorem of_self {results : α → α → Prop} {x : Except Rejection α}
    (hok : ∀ a, x = .ok a → results a a) (herror : ∀ r, x = .error r → rejections r r) :
    Alike rejections results x x := by
  cases x with
  | ok a => exact .ok (hok a rfl)
  | error r => exact .error (herror r rfl)

end Alike

/-! ### Simulations -/

/-- Corresponding places and outcomes of two readings. -/
structure Simulation (γ : Type) where
  /-- What corresponding places have in common, as far as it is kept in a tree. -/
  mark : Place → γ
  /-- The places at which a value is read. -/
  places : Json → Place → Place → Prop
  /-- The outcomes, given which results correspond. -/
  outcomes {α β : Type} (results : α → β → Prop) : Except Rejection α → Except Rejection β → Prop
  ok {α β : Type} {results : α → β → Prop} {a : α} {b : β} (h : results a b) :
    outcomes results (.ok a) (.ok b)
  bind {α β α' β' : Type} {results : α → β → Prop} {results' : α' → β' → Prop}
    {x : Except Rejection α} {y : Except Rejection β} {f : α → Except Rejection α'}
    {g : β → Except Rejection β'} (h : outcomes results x y)
    (next : ∀ a b, results a b → outcomes results' (f a) (g b)) :
    outcomes results' (x >>= f) (y >>= g)
  mark_eq {json : Json} {p q : Place} (h : places json p q) : mark p = mark q
  source_eq {json : Json} {p q : Place} (h : places json p q) : p.source = q.source
  withSource {json : Json} {p q : Place} (h : places json p q) (source : Source) :
    places json (p.withSource source) (q.withSource source)
  reject {json : Json} {p q : Place} (h : places json p q) {α β : Type} {results : α → β → Prop}
    (cause : Rejection.Cause) : outcomes results (p.reject cause) (q.reject cause)
  key {members : List (String × Json)} {name : String} {value : Json} {p q : Place}
    (h : places (.object members) p q) (hmem : (name, value) ∈ members) :
    outcomes (fun p' q' => p.Deeper p' ∧ q.Deeper q' ∧ places value p' q') (p.key name)
      (q.key name)
  index {items : List Json} {position : Nat} {item : Json} {p q : Place}
    (h : places (.array items) p q) (hitem : items[position]? = some item) :
    outcomes (fun p' q' => p.Deeper p' ∧ q.Deeper q' ∧ places item p' q') (p.index position)
      (q.index position)

namespace Simulation

variable {γ : Type} (sim : Simulation γ)

/-- Trees that are the same but for what their marks do not have in common. -/
def SameTree (c d : PlacedCriterion) : Prop := c.map sim.mark = d.map sim.mark

/-- Corresponding places that were entered from two given ones. -/
def Entered (p q : Place) (json : Json) (p' q' : Place) : Prop :=
  p.Deeper p' ∧ q.Deeper q' ∧ sim.places json p' q'

/-- Two readers whose outcomes correspond wherever a reading that has come to two given places may
go on. -/
def Reads (p q : Place) {α β : Type} (results : α → β → Prop)
    (read : Json → Place → Except Rejection α) (read' : Json → Place → Except Rejection β) : Prop :=
  ∀ json p' q', sim.Entered p q json p' q' → sim.outcomes results (read json p') (read' json q')

variable {sim} {json value : Json} {p q p' q' : Place}

theorem Entered.withSource (h : sim.Entered p q json p' q') (source : Source) :
    sim.Entered p q json (p'.withSource source) (q'.withSource source) :=
  ⟨h.1.withSource source, h.2.1.withSource source, sim.withSource h.2.2 source⟩

theorem Reads.of_entered {α β : Type} {results : α → β → Prop}
    {read : Json → Place → Except Rejection α} {read' : Json → Place → Except Rejection β}
    (h : sim.Reads p q results read read') (hentered : sim.Entered p q json p' q') :
    sim.Reads p' q' results read read' :=
  fun value p'' q'' hin =>
    h value p'' q'' ⟨hentered.1.trans hin.1, hentered.2.1.trans hin.2.1, hin.2.2⟩

theorem map {α β α' β' : Type} {results : α → β → Prop} {results' : α' → β' → Prop}
    {x : Except Rejection α} {y : Except Rejection β} {f : α → α'} {g : β → β'}
    (h : sim.outcomes results x y) (next : ∀ a b, results a b → results' (f a) (g b)) :
    sim.outcomes results' (x.map f) (y.map g) := by
  have hx : x.map f = x >>= fun a => .ok (f a) := by cases x <;> rfl
  have hy : y.map g = y >>= fun b => .ok (g b) := by cases y <;> rfl
  rw [hx, hy]
  exact sim.bind h fun a b hab => sim.ok (next a b hab)

end Simulation

end Audience
