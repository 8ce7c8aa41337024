import Audience.Proofs.Criterion.Tree

/-!
# Verdicts and the events of a subject

A criterion looks at the events of a subject only where it asks for one of them, so that neither their
order counts nor how often each is listed. More events can turn a verdict from no to yes, and from yes
to no only below a negation.

* **`Situation.withEvents`**, **`Situation.resolve_withEvents`**: other events, with no part in what a
  source resolves to.
* **`Criterion.Carried`**, **`Criterion.carried_holds`**: relations that the connectives keep, and so
  do verdicts before and after a change of the events.
* **`Criterion.verdict_of_events`**: verdicts depend on the set of events, and grow with it where
  nothing is negated.
-/

namespace Audience

/-! ### Other events -/

namespace Situation

variable {situation : Situation} {events : List Record} {source : Source}

/-- The situation in which the subject has other events. -/
def withEvents (situation : Situation) (events : List Record) : Situation :=
  { situation with subject := { situation.subject with events } }

theorem scope?_withEvents : (situation.withEvents events).scope? source = situation.scope? source := by
  cases source <;> rfl

/-- Sources are read from the installation, the user and the event that is looked at. -/
theorem resolve_withEvents :
    (situation.withEvents events).resolve source = situation.resolve source := by
  induction source with
  | installation | user | event => rfl
  | lastActivity parent | locationDate parent | location parent =>
    rw [resolve, resolve, scope?_withEvents]
  | field parent path =>
    rw [resolve, resolve, resolveField, resolveField]
    dsimp only
    rw [scope?_withEvents]
  | sinceDate parent ih => rw [resolve, resolve, ih]
  | elapsedTime parent ih =>
    rw [resolve, resolve, ih]
    rfl

theorem observe_withEvents :
    (situation.withEvents events).observe source = situation.observe source := by
  rw [observe, observe, resolve_withEvents]

end Situation

namespace Criterion

variable {α : Type} {criterion : Criterion α} {first second : List Record}
  {r : Bool → Bool → Prop}

/-- Whether a node is a negation. -/
def isNegation : Criterion α → Bool
  | not _ _ => true
  | _ => false

/-! ### Relations between verdicts -/

/-- A relation between verdicts that conjunction and disjunction keep, and so does the search through
the events, through `first` on the one side and through `second` on the other. -/
structure Carried (first second : List Record) (r : Bool → Bool → Prop) : Prop where
  refl : ∀ b, r b b
  and : ∀ {a b c d}, r a b → r c d → r (a && c) (b && d)
  or : ∀ {a b c d}, r a b → r c d → r (a || c) (b || d)
  any : ∀ {p q : Record → Bool}, (∀ event, r (p event) (q event)) → r (first.any p) (second.any q)

namespace Carried

variable (hr : Carried first second r)
include hr

theorem allHold {parts : List (Criterion α)} {before after : Situation}
    (h : ∀ part ∈ parts, r (part.holds before) (part.holds after)) :
    r (allHold before parts) (allHold after parts) := by
  induction parts with
  | nil => exact hr.refl true
  | cons part rest ih =>
    obtain ⟨hpart, hrest⟩ := List.forall_mem_cons.1 h
    exact hr.and hpart (ih hrest)

theorem someHolds {parts : List (Criterion α)} {before after : Situation}
    (h : ∀ part ∈ parts, r (part.holds before) (part.holds after)) :
    r (someHolds before parts) (someHolds after parts) := by
  induction parts with
  | nil => exact hr.refl false
  | cons part rest ih =>
    obtain ⟨hpart, hrest⟩ := List.forall_mem_cons.1 h
    exact hr.or hpart (ih hrest)

theorem holdsIfGiven {inner : Option (Criterion α)} {before after : Situation}
    (h : ∀ part ∈ inner.toList, r (part.holds before) (part.holds after)) :
    r (holdsIfGiven before inner) (holdsIfGiven after inner) := by
  cases inner with
  | none => exact hr.refl true
  | some part => exact h part (List.mem_singleton.2 rfl)

end Carried

/-- A relation that the connectives keep, and negation wherever the criterion negates, holds between the
verdicts with the events `first` and with the events `second`. -/
theorem carried_holds (situation : Situation) (hr : Carried first second r)
    (hnegation : ∀ node ∈ criterion.nodes, node.isNegation = true → ∀ a b, r a b → r (!a) (!b)) :
    r (criterion.holds (situation.withEvents first)) (criterion.holds (situation.withEvents second)) := by
  induction criterion using induction_children generalizing situation with
  | step c ih =>
    -- the events change for the criteria below as they do here, whatever event is looked at there
    have hbelow : ∀ inner ∈ c.children, ∀ situation : Situation,
        r (inner.holds (situation.withEvents first)) (inner.holds (situation.withEvents second)) :=
      fun inner hmem situation => ih inner hmem situation fun node hnode =>
        hnegation node (mem_nodes_iff.2 (.inr ⟨inner, hmem, hnode⟩))
    cases c with
    | matchAll mark => exact hr.refl true
    | and mark parts => exact hr.allHold fun part hmem => hbelow part hmem situation
    | or mark parts => exact hr.someHolds fun part hmem => hbelow part hmem situation
    | not mark inner =>
      exact hnegation _ (mem_nodes_iff.2 (.inl rfl)) rfl _ _
        (hbelow inner List.mem_cons_self situation)
    | test mark source question =>
      rw [holds, holds, testHolds, testHolds, Situation.resolve_withEvents,
        Situation.resolve_withEvents]
      exact hr.refl _
    | presence mark source present sinceDate elapsedTime =>
      rw [holds, holds, Situation.observe_withEvents, Situation.observe_withEvents]
      cases situation.observe source with
      | none => exact hr.refl _
      | some observation =>
        have hsince := hr.holdsIfGiven fun part hmem =>
          hbelow part (List.mem_append_left _ hmem) situation
        have helapsed := hr.holdsIfGiven fun part hmem =>
          hbelow part (List.mem_append_right _ hmem) situation
        exact hr.and (hr.and (hr.refl present) hsince) helapsed
    | someEvent mark inner =>
      exact hr.any fun event => hbelow inner List.mem_cons_self (situation.withEvent event)
    | subscription mark source status =>
      rw [holds, holds, subscriptionHolds, subscriptionHolds, Situation.resolve_withEvents,
        Situation.resolve_withEvents]
      exact hr.refl _

/-! ### Sets of events -/

theorem any_of_subset {β : Type} {xs ys : List β} {p q : β → Bool} (hsub : xs ⊆ ys)
    (h : ∀ x, p x = true → q x = true) (hany : xs.any p = true) : ys.any q = true := by
  obtain ⟨x, hmem, hx⟩ := List.any_eq_true.1 hany
  exact List.any_eq_true.2 ⟨x, hsub hmem, h x hx⟩

/-- Lists with the same members carry equality. -/
theorem carried_eq (h : ∀ event, event ∈ first ↔ event ∈ second) : Carried first second Eq where
  refl _ := rfl
  and hab hcd := by rw [hab, hcd]
  or hab hcd := by rw [hab, hcd]
  any hpq := by
    rw [Bool.eq_iff_iff]
    exact ⟨any_of_subset (fun event => (h event).1) fun event hp => (hpq event).symm.trans hp,
      any_of_subset (fun event => (h event).2) fun event hq => (hpq event).trans hq⟩

/-- More events carry implication. -/
theorem carried_imp (hsub : first ⊆ second) :
    Carried first second fun a b => a = true → b = true where
  refl _ h := h
  and hab hcd h := by
    rw [Bool.and_eq_true] at h ⊢
    exact h.imp hab hcd
  or hab hcd h := by
    rw [Bool.or_eq_true] at h ⊢
    exact h.imp hab hcd
  any hpq := any_of_subset hsub hpq

/-- Events count as a set, whatever event is looked at from outside. Subjects whose events are the same
but for their order and repeats have the same verdict; where nothing is negated, a subject that meets a
criterion still meets it with more events. -/
theorem verdict_of_events (criterion : Criterion α) (subject : Subject) (outside : Option Record)
    (now : Int) (events : List Record) :
    ((∀ event, event ∈ events ↔ event ∈ subject.events) →
      criterion.holds ⟨{ subject with events }, outside, now⟩ =
        criterion.holds ⟨subject, outside, now⟩) ∧
    ((∀ node ∈ criterion.nodes, node.isNegation = false) → subject.events ⊆ events →
      criterion.holds ⟨subject, outside, now⟩ = true →
        criterion.holds ⟨{ subject with events }, outside, now⟩ = true) := by
  constructor
  · intro hsame
    refine carried_holds ⟨subject, outside, now⟩ (carried_eq hsame) ?_
    intro node _ _ a b hab
    rw [hab]
  · intro hpositive hsub
    refine carried_holds ⟨subject, outside, now⟩ (carried_imp hsub) ?_
    intro node hnode hnegation
    rw [hpositive node hnode] at hnegation
    cases hnegation

/-- A criterion that asks for an event within an event: a purchase beside a view. -/
theorem verdict_of_events_nested :
    let view := Record.empty.withProperty "kind" (.string "view")
    let purchase := Record.empty.withProperty "kind" (.string "purchase")
    let kind (name : String) : Criterion Unit :=
      .test () (.field .event ["kind"]) (.equal (.text name))
    let criterion : Criterion Unit :=
      .someEvent () (.and () [kind "view", .someEvent () (kind "purchase")])
    let subject : Subject := ⟨none, none, [view, purchase]⟩
    (∀ node ∈ criterion.nodes, node.isNegation = false) ∧
      ∀ now,
        criterion.holds ⟨{ subject with events := [purchase, view, purchase] }, none, now⟩ =
          criterion.holds ⟨subject, none, now⟩ ∧
        criterion.holds ⟨{ subject with events := [.empty, purchase, view] }, none, now⟩ = true := by
  intro view purchase kind criterion subject
  have hpositive : ∀ node ∈ criterion.nodes, node.isNegation = false := by
    have hnodes : criterion.nodes.all (fun node => !node.isNegation) = true := rfl
    intro node hnode
    simpa using List.all_eq_true.1 hnodes node hnode
  have hsame : ∀ event, event ∈ [purchase, view, purchase] ↔ event ∈ subject.events := by
    intro event
    show _ ↔ event ∈ [view, purchase]
    simp only [List.mem_cons, List.not_mem_nil, or_false]
    grind
  have hsub : subject.events ⊆ [.empty, purchase, view] := by
    show [view, purchase] ⊆ _
    simp
  refine ⟨hpositive, fun now => ⟨?_, ?_⟩⟩
  · exact (verdict_of_events criterion subject none now _).1 hsame
  · have hmet : criterion.holds ⟨subject, none, now⟩ = true := by rfl
    exact (verdict_of_events criterion subject none now _).2 hpositive hsub hmet

end Criterion

end Audience
