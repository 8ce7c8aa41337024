import Audience.Proofs.Simulation.Criterion

/-!
# Limits only reject

A document is read under two settings of the limits, neither limit of the first one above that of the
second. Both readings come to the same places, until the first one is refused a step that the second
one takes. That refusal is the outcome of the whole reading: nothing on the way out takes another
branch because of it.

* **`Rejection.OfLimits`**: the refusals that limits cause.
* **`Curtailed`**: outcomes of one kind, unless the first is such a refusal.
* **`Simulation.curtailed`**: the readings of a document under two settings of the limits.
* **`Criterion.limits_only_reject`**: smaller limits give the outcome of larger ones or a refusal that
  they cause.
-/

namespace Audience

variable {limits limits' : Limits}

/-- What a place is but for its limits: its source and its steps. -/
def Place.standing (place : Place) : Source × List Step := (place.source, place.trail)

/-- A refusal that limits cause: of a step that would pass the depth limit, or of a whole document
with more nodes than are allowed. -/
inductive Rejection.OfLimits (limits : Limits) : Rejection → Prop
  | depth {steps : List Step} (h : steps.length = limits.maxDepth) :
      OfLimits limits ⟨.nestedTooDeep limits.maxDepth, steps⟩
  | nodes {count : Nat} (h : limits.maxNodes < count) :
      OfLimits limits ⟨.tooManyNodes count limits.maxNodes, []⟩

/-! ### Outcomes that limits may cut short -/

/-- Outcomes of two readings: the same but for what places do not have in common, unless the first
reading was ended by its limits. -/
inductive Curtailed {α β : Type} (limits : Limits) (results : α → β → Prop) :
    Except Rejection α → Except Rejection β → Prop
  | ended {r : Rejection} {y : Except Rejection β} (h : r.OfLimits limits) :
      Curtailed limits results (.error r) y
  | alike {x : Except Rejection α} {y : Except Rejection β} (h : Alike Eq results x y) :
      Curtailed limits results x y

theorem Curtailed.bind {α β α' β' : Type} {results : α → β → Prop} {results' : α' → β' → Prop}
    {x : Except Rejection α} {y : Except Rejection β} {f : α → Except Rejection α'}
    {g : β → Except Rejection β'} (h : Curtailed limits results x y)
    (next : ∀ a b, results a b → Curtailed limits results' (f a) (g b)) :
    Curtailed limits results' (x >>= f) (y >>= g) := by
  cases h with
  | ended h => exact .ended h
  | alike h =>
    cases h with
    | ok h => exact next _ _ h
    | error h => exact .alike (.error h)

/-! ### Readings under two settings of the limits -/

/-- The same place under two settings of the limits, within the depth that the first one allows. -/
structure Place.Matches (limits limits' : Limits) (p q : Place) : Prop where
  standing : p.standing = q.standing
  depth_le : p.depth ≤ limits.maxDepth
  limits_left : p.limits = limits
  limits_right : q.limits = limits'

namespace Place.Matches

variable {p q : Place}

theorem source_eq (h : p.Matches limits limits' q) : p.source = q.source :=
  congrArg Prod.fst h.standing

theorem trail_eq (h : p.Matches limits limits' q) : p.trail = q.trail :=
  congrArg Prod.snd h.standing

theorem rejection_eq (h : p.Matches limits limits' q) (cause : Rejection.Cause) :
    p.rejection cause = q.rejection cause := by
  show Rejection.mk cause p.trail.reverse = Rejection.mk cause q.trail.reverse
  rw [h.trail_eq]

/-- A step is taken from both places or refused at both, unless the smaller limit alone refuses it. -/
theorem enter (h : p.Matches limits limits' q) (hle : limits.maxDepth ≤ limits'.maxDepth)
    (step : Step) :
    Curtailed limits (fun p' q' => p.Deeper p' ∧ q.Deeper q' ∧ p'.Matches limits limits' q')
      (p.enter step) (q.enter step) := by
  have hdepth : q.depth = p.depth := congrArg List.length h.trail_eq.symm
  by_cases hroom : p.depth < limits.maxDepth
  · have hp : p.enter step = .ok { p with trail := step :: p.trail } :=
      enter_eq_ok_iff.2 ⟨by rw [h.limits_left]; exact hroom, rfl⟩
    have hq : q.enter step = .ok { q with trail := step :: q.trail } :=
      enter_eq_ok_iff.2 ⟨by rw [h.limits_right, hdepth]; omega, rfl⟩
    have hmatches : Matches limits limits' { p with trail := step :: p.trail }
        { q with trail := step :: q.trail } := by
      refine ⟨?_, hroom, h.limits_left, h.limits_right⟩
      show (p.source, step :: p.trail) = (q.source, step :: q.trail)
      rw [h.source_eq, h.trail_eq]
    have hdeeper := deeper_of_enter hp
    have hdeeper' := deeper_of_enter hq
    rw [hp, hq]
    exact .alike (.ok ⟨hdeeper, hdeeper', hmatches⟩)
  · have hfull : p.steps.length = limits.maxDepth := by
      have hlength : p.steps.length = p.depth := List.length_reverse
      have := h.depth_le
      omega
    rw [Place.enter, h.limits_left, if_neg hroom]
    exact .ended (.depth hfull)

end Place.Matches

/-- The readings of a document under two settings of the limits. -/
def Simulation.curtailed (hle : limits.maxDepth ≤ limits'.maxDepth) :
    Simulation (Source × List Step) where
  mark := Place.standing
  places _ p q := p.Matches limits limits' q
  outcomes results x y := Curtailed limits results x y
  ok h := .alike (.ok h)
  bind h next := h.bind next
  mark_eq h := h.standing
  source_eq h := h.source_eq
  withSource h source :=
    ⟨congrArg (Prod.mk source) h.trail_eq, h.depth_le, h.limits_left, h.limits_right⟩
  reject h _ _ _ cause := .alike (.error (h.rejection_eq cause))
  key h _ := h.enter hle _
  index h _ := h.enter hle _

namespace Criterion

/-! ### Whole documents -/

/-- The outcome of a reading without the limits that the places in a tree carry. -/
def unlimited (outcome : Except Rejection PlacedCriterion) :
    Except Rejection (Criterion (Source × List Step)) :=
  outcome.map (Criterion.map Place.standing)

theorem curtailed_read (hle : limits.maxDepth ≤ limits'.maxDepth) (json : Json) :
    Curtailed limits (Simulation.curtailed hle).SameTree (read json (.root limits))
      (read json (.root limits')) := by
  have hplaces : (Simulation.curtailed hle).places json (.root limits) (.root limits') :=
    ⟨rfl, Nat.zero_le _, rfl, rfl⟩
  exact Simulation.read hplaces

/-- The count of nodes ends a reading too, and is the same for the same tree. -/
theorem curtailed_ofJson (hdepth : limits.maxDepth ≤ limits'.maxDepth)
    (hnodes : limits.maxNodes ≤ limits'.maxNodes) (json : Json) :
    Curtailed limits (Simulation.curtailed hdepth).SameTree (ofJson limits json)
      (ofJson limits' json) := by
  refine (curtailed_read hdepth json).bind ?_
  intro c d hcd
  have hcount : c.nodeCount = d.nodeCount := by
    rw [← nodeCount_map c, ← nodeCount_map d]
    exact congrArg nodeCount hcd
  by_cases hc : limits.maxNodes < c.nodeCount
  · rw [if_pos hc]
    exact .ended (.nodes hc)
  · have hd : ¬ limits'.maxNodes < d.nodeCount := by omega
    rw [if_neg hc, if_neg hd]
    exact .alike (.ok hcd)

/-- Under smaller limits a document gives what it gives under larger ones, the same tree but for the
limits in it or the same rejection, or it is refused on account of the smaller limits. -/
theorem limits_only_reject (limits limits' : Limits)
    (hdepth : limits.maxDepth ≤ limits'.maxDepth) (hnodes : limits.maxNodes ≤ limits'.maxNodes)
    (json : Json) :
    unlimited (ofJson limits json) = unlimited (ofJson limits' json) ∨
      ∃ rejection, ofJson limits json = .error rejection ∧ rejection.OfLimits limits := by
  generalize hx : ofJson limits json = x
  generalize hy : ofJson limits' json = y
  have h : Curtailed limits (Simulation.curtailed hdepth).SameTree x y := by
    rw [← hx, ← hy]
    exact curtailed_ofJson hdepth hnodes json
  cases h with
  | ended h => exact .inr ⟨_, rfl, h⟩
  | alike h =>
    left
    cases h with
    | ok h => exact congrArg Except.ok h
    | error h => rw [h]

/-- The comparison beside `presence` is refused a step that larger limits let it take. -/
theorem comparison_rejected_by_limits :
    (2 ≤ 64 ∧ 9 ≤ 10000) ∧
      ∃ rejection, ofJson ⟨2, 9⟩ (.object [("presence", .bool true),
        ("sinceDateComparison", .object [("not", .object [("gt", .string "-P1M")])])]) =
          .error rejection ∧ rejection.OfLimits ⟨2, 9⟩ := by
  refine ⟨by decide, ?_⟩
  refine (limits_only_reject ⟨2, 9⟩ ⟨64, 10000⟩ (by decide) (by decide) _).resolve_left ?_
  intro heq
  replace heq := congrArg Except.isOk heq
  revert heq
  decide +kernel

end Criterion

end Audience
