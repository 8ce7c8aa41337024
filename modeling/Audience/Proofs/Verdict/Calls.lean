import Audience.Proofs.Criterion.Tree
import Audience.Proofs.Outcome

/-!
# How deep verdicts recurse

Resolving a source and evaluating a tree are written here once more with a bound on the calls within
each other: one for each link of a source, one for each node on a way down. With too few calls there
is no result. Parts that a verdict could pass over are evaluated too, so the bound holds whatever the
subject makes of them.

* **`Source.length`**: the links of a source.
* **`Situation.resolveIn`**, **`Criterion.holdsIn`**: resolution and evaluation with bounded calls.
* **`Situation.resolveIn_eq`**, **`Criterion.holdsIn_eq`**: as many calls as links, and as many as
  nodes on the longest way down, are enough.
-/

namespace Audience

/-! ### The links of a source -/

namespace Source

/-- The number of links from a source to its root, both of them counted. -/
def length : Source → Nat
  | installation | user | event => 1
  | lastActivity parent | field parent _ | sinceDate parent | elapsedTime parent
  | location parent | locationDate parent => parent.length + 1

theorem length_pos (source : Source) : 1 ≤ source.length := by
  cases source <;> simp [length]

end Source

/-! ### Resolution -/

namespace Resolution

/-- What is read from a scope; nothing from anything else. -/
def ofScope (read : Record → Resolution) : Resolution → Resolution
  | scope record => read record
  | _ => absent

/-- What is made of the instant of the last change, if that is known. -/
def ofChange (make : Int → Resolution) (resolution : Resolution) : Resolution :=
  (resolution.changedAt.map make).getD absent

end Resolution

namespace Situation

variable {situation : Situation} {source : Source}

theorem length_fieldChain (source : Source) (segments : List String) :
    (fieldChain source segments).1.length ≤ source.length := by
  induction source generalizing segments with
  | field parent path ih =>
    rw [fieldChain, Source.length]
    exact Nat.le_succ_of_le (ih _)
  | _ => exact Nat.le_refl _

/-- Only a scope resolves to a record. -/
theorem ofScope_resolve (read : Record → Resolution) :
    (situation.resolve source).ofScope read =
      ((situation.scope? source).map read).getD .absent := by
  cases source with
  | installation =>
    show (Resolution.ofRecord situation.subject.installation).ofScope read = _
    cases h : situation.subject.installation <;> simp [Resolution.ofRecord, Resolution.ofScope,
      scope?, h]
  | user =>
    show (Resolution.ofRecord situation.subject.user).ofScope read = _
    cases h : situation.subject.user <;> simp [Resolution.ofRecord, Resolution.ofScope, scope?, h]
  | event =>
    show (Resolution.ofRecord situation.event).ofScope read = _
    cases h : situation.event <;> simp [Resolution.ofRecord, Resolution.ofScope, scope?, h]
  | lastActivity parent =>
    show (Resolution.ofInstant _).ofScope read = .absent
    cases (situation.scope? parent).bind Record.lastActivityDate <;> rfl
  | locationDate parent =>
    show (Resolution.ofInstant _).ofScope read = .absent
    cases (situation.scope? parent).bind Record.locationDate <;> rfl
  | field parent path =>
    show (situation.resolveField parent path).ofScope read = .absent
    unfold resolveField fieldOf
    dsimp only
    split
    · split <;> rfl
    · rfl
  | sinceDate parent =>
    rw [resolve]
    split <;> rfl
  | elapsedTime parent =>
    rw [resolve]
    split <;> rfl
  | location parent =>
    rw [resolve]
    unfold locationOf
    split
    · split <;> rfl
    · rfl

/-- What a source holds, found with at most `calls` calls within each other. -/
def resolveIn (situation : Situation) : Nat → Source → Option Resolution
  | 0, _ => none
  | calls + 1, source =>
      match source with
      | .installation => some (.ofRecord situation.subject.installation)
      | .user => some (.ofRecord situation.subject.user)
      | .event => some (.ofRecord situation.event)
      | .lastActivity parent =>
          (situation.resolveIn calls parent).map
            (.ofScope fun record => .ofInstant record.lastActivityDate)
      | .field parent path =>
          let (start, segments) := fieldChain parent path
          (situation.resolveIn calls start).map (.ofScope fun record => fieldOf record segments)
      | .sinceDate parent => (situation.resolveIn calls parent).map (.ofChange .ofMillis)
      | .elapsedTime parent =>
          (situation.resolveIn calls parent).map
            (.ofChange fun since => .value ⟨.elapsed since situation.now, some since⟩)
      | .location parent => (situation.resolveIn calls parent).map (.ofScope locationOf)
      | .locationDate parent =>
          (situation.resolveIn calls parent).map
            (.ofScope fun record => .ofInstant record.locationDate)

/-- A call for each link is enough. -/
theorem resolveIn_eq {calls : Nat} (h : source.length ≤ calls) :
    situation.resolveIn calls source = some (situation.resolve source) := by
  induction calls generalizing source with
  | zero =>
    have := source.length_pos
    omega
  | succ calls ih =>
    cases source with
    | installation | user | event => rfl
    | lastActivity parent =>
      rw [resolveIn, ih (Nat.le_of_succ_le_succ h), Option.map_some, ofScope_resolve, resolve]
      cases situation.scope? parent <;> rfl
    | field parent path =>
      have hchain := length_fieldChain parent path
      have hparent : parent.length ≤ calls := Nat.le_of_succ_le_succ h
      rw [resolveIn, resolve, resolveField]
      generalize fieldChain parent path = chain at hchain ⊢
      obtain ⟨start, segments⟩ := chain
      dsimp only at hchain ⊢
      rw [ih (by omega), Option.map_some, ofScope_resolve]
      cases situation.scope? start <;> rfl
    | sinceDate parent =>
      rw [resolveIn, ih (Nat.le_of_succ_le_succ h), Option.map_some, resolve, Resolution.ofChange]
      cases (situation.resolve parent).changedAt <;> rfl
    | elapsedTime parent =>
      rw [resolveIn, ih (Nat.le_of_succ_le_succ h), Option.map_some, resolve, Resolution.ofChange]
      cases (situation.resolve parent).changedAt <;> rfl
    | location parent =>
      rw [resolveIn, ih (Nat.le_of_succ_le_succ h), Option.map_some, ofScope_resolve, resolve]
      cases situation.scope? parent <;> rfl
    | locationDate parent =>
      rw [resolveIn, ih (Nat.le_of_succ_le_succ h), Option.map_some, ofScope_resolve, resolve]
      cases situation.scope? parent <;> rfl

end Situation

/-! ### Evaluation -/

namespace Criterion

variable {α : Type}

/-- The source that a node asks about. -/
def asked? : Criterion α → Option Source
  | test _ source _ | presence _ source _ _ _ | subscription _ source _ => some source
  | _ => none

/-- Whether a criterion holds, found with at most `calls` calls within each other, and at most `links`
for each source. -/
def holdsIn (links : Nat) : Nat → Situation → Criterion α → Option Bool
  | 0, _, _ => none
  | calls + 1, situation, criterion =>
      match criterion with
      | matchAll _ => some true
      | and _ parts => (parts.mapM (holdsIn links calls situation)).map fun given => given.all id
      | or _ parts => (parts.mapM (holdsIn links calls situation)).map fun given => given.any id
      | not _ inner => (holdsIn links calls situation inner).map fun given => !given
      | test _ source question => do
          let found ← situation.resolveIn links source
          return found.value?.any fun datum => datum.passes situation.now question
      | presence _ source present sinceDate elapsedTime => do
          let found ← situation.resolveIn links source
          let since ← sinceDate.toList.mapM (holdsIn links calls situation)
          let elapsed ← elapsedTime.toList.mapM (holdsIn links calls situation)
          match found.observed with
          | none => return !present
          | some _ => return present && since.all id && elapsed.all id
      | someEvent _ inner => do
          let given ← situation.subject.events.mapM fun event =>
            holdsIn links calls (situation.withEvent event) inner
          return given.any id
      | subscription _ source status => do
          match ← situation.resolveIn links source with
          | .scope record => return record.subscriptionStatus == some status
          | _ => return false

theorem holdsIfGiven_eq_all (situation : Situation) (inner : Option (Criterion α)) :
    holdsIfGiven situation inner = (inner.toList.map (holds situation)).all id := by
  cases inner with
  | none => rfl
  | some inner => simp [holdsIfGiven]

/-- A call for each node on the longest way down is enough, and one for each link of the sources. -/
theorem holdsIn_eq {calls links : Nat} (situation : Situation) (criterion : Criterion α)
    (hdepth : criterion.depth ≤ calls)
    (hlinks : ∀ node ∈ criterion.nodes, ∀ source ∈ node.asked?, source.length ≤ links) :
    holdsIn links calls situation criterion = some (criterion.holds situation) := by
  induction calls generalizing situation criterion with
  | zero =>
    have := criterion.depth_pos
    omega
  | succ calls ih =>
    have hinner : ∀ inner ∈ criterion.children, ∀ situation,
        holdsIn links calls situation inner = some (inner.holds situation) := by
      intro inner hmem situation
      refine ih situation inner (depth_le_succ_iff.1 hdepth inner hmem) fun node hnode => ?_
      exact hlinks node (mem_nodes_iff.2 (.inr ⟨inner, hmem, hnode⟩))
    have hasked := hlinks criterion (mem_nodes_iff.2 (.inl rfl))
    cases criterion with
    | matchAll mark => rfl
    | and mark parts =>
      have hparts : parts.mapM (holdsIn links calls situation) = some (parts.map (holds situation)) :=
        mapM_eq_some_map fun part hmem => hinner part hmem situation
      rw [holdsIn, hparts, holds, allHold_eq_all]
      rfl
    | or mark parts =>
      have hparts : parts.mapM (holdsIn links calls situation) = some (parts.map (holds situation)) :=
        mapM_eq_some_map fun part hmem => hinner part hmem situation
      rw [holdsIn, hparts, holds, someHolds_eq_any]
      rfl
    | not mark inner =>
      rw [holdsIn, hinner inner List.mem_cons_self situation, holds]
      rfl
    | test mark source question =>
      rw [holdsIn, Situation.resolveIn_eq (hasked source rfl), holds]
      rfl
    | presence mark source present sinceDate elapsedTime =>
      have hsince := mapM_eq_some_map fun part hmem =>
        hinner part (List.mem_append_left elapsedTime.toList hmem) situation
      have helapsed := mapM_eq_some_map fun part hmem =>
        hinner part (List.mem_append_right sinceDate.toList hmem) situation
      rw [holdsIn, Situation.resolveIn_eq (hasked source rfl), hsince, helapsed, holds,
        holdsIfGiven_eq_all, holdsIfGiven_eq_all, Situation.observe]
      cases h : (situation.resolve source).observed with
      | none => simp [h]
      | some observation => simp [h]
    | someEvent mark inner =>
      have hevents := mapM_eq_some_map fun event (_ : event ∈ situation.subject.events) =>
        hinner inner List.mem_cons_self (situation.withEvent event)
      rw [holdsIn, hevents, holds]
      simp
    | subscription mark source status =>
      rw [holdsIn, Situation.resolveIn_eq (hasked source rfl), holds, subscriptionHolds]
      cases situation.resolve source <;> simp

end Criterion

end Audience
