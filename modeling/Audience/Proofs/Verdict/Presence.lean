import Audience.Proofs.Criterion.Meaning
import Audience.Proofs.Criterion.PresenceForms
import Audience.Proofs.Verdict.Operators

/-!
# Presences

A presence sees a source as the tests do, and besides it sees the session of a scope, which no test
does. So a source that passes a test is present, and the criteria on the change of a source only count
where the source is asked to be present.

* **`Criterion.holds_present`**, **`Criterion.holds_absent`**: the verdict on a presence, with and
  without criteria on the change.
* **`Criterion.verdict_present`**, **`Criterion.verdict_absent`**: the same of a presence as it is
  written.
* **`Criterion.observed_of_answer`**: what passes a test is present.
* **`Criterion.PresenceLaws`**, **`Criterion.presence_laws`**: the laws of presences together.
-/

namespace Audience

theorem conjunction_append (front back : List (Option Bool)) : conjunction (front ++ back) =
    (conjunction front).bind fun first => (conjunction back).map (first && ·) := by
  induction front with
  | nil =>
    show conjunction back = (conjunction back).map (true && ·)
    simp only [Bool.true_and, Option.map_id']
  | cons verdict rest ih =>
    rw [List.cons_append, conjunction_cons, conjunction_cons, ih]
    cases verdict with
    | none => rfl
    | some first =>
      cases conjunction rest with
      | none => rfl
      | some other =>
        show ((conjunction back).map (other && ·)).map (first && ·) =
          (conjunction back).map (first && other && ·)
        rw [Option.map_map]
        congr 1
        funext last
        exact (Bool.and_assoc first other last).symm

namespace Criterion

variable {α : Type} {mark : α} {source : Source} {situation : Situation}

/-! ### Trees -/

theorem holds_present (since elapsed : Option (Criterion α)) :
    (presence mark source true since elapsed).holds situation =
      ((situation.observe source).isSome && holdsIfGiven situation since &&
        holdsIfGiven situation elapsed) := by
  rw [holds]
  cases situation.observe source with
  | none => rfl
  | some observation => rfl

theorem holds_absent (since elapsed : Option (Criterion α)) :
    (presence mark source false since elapsed).holds situation =
      !(situation.observe source).isSome := by
  rw [holds]
  cases situation.observe source with
  | none => rfl
  | some observation => rfl

theorem holds_bare :
    (presence mark source true none none).holds situation = (situation.observe source).isSome := by
  rw [holds_present]
  show (_ && true && true) = _
  rw [Bool.and_true, Bool.and_true]

/-- A test only passes a value, and a value is seen by a presence too. -/
theorem observed_of_answer {question : Test} (h : answer mark source situation question = true) :
    (situation.observe source).isSome = true := by
  rw [answer_eq] at h
  rw [Situation.observe]
  cases hresolved : situation.resolve source with
  | value observation => rfl
  | absent | scope record =>
    rw [hresolved] at h
    cases h

/-! ### Documents -/

/-- The verdicts on a criterion under a source, if there is one. -/
def verdictsGiven (situation : Situation) (source : Source) (inner : Option Json) :
    List (Option Bool) :=
  (inner.map fun json => verdict? source json situation).toList

theorem conjunction_given (inner : Option Json) :
    conjunction (verdictsGiven situation source inner) =
      (Semantics.given? meaning? source inner).map (holdsIfGiven situation) := by
  cases inner with
  | none => rfl
  | some json =>
    show conjunction [(meaning? source json).map (holds situation)] = _
    rw [conjunction_singleton]
    show _ = ((meaning? source json).map some).map _
    rw [Option.map_map]
    rfl

theorem verdict_within (present : Bool) (since elapsed : Option Json) :
    verdict? source (PresenceForm.within present since elapsed) situation =
      (Semantics.given? meaning? (.sinceDate source) since).bind fun since =>
        (Semantics.given? meaning? (.elapsedTime source) elapsed).map fun elapsed =>
          (presence () source present since elapsed).holds situation := by
  rw [verdict?, meaning_within, Semantics.presence?, Option.map_bind]
  congr 1
  funext since
  exact Option.map_map _ _ _

theorem verdict_bare (present : Bool) :
    verdict? source (PresenceForm.within present none none) situation =
      some ((presence () source present none none).holds situation) := verdict_within present none none

/-- A presence that is asked for is the conjunction of the presence alone and of the criteria on its
change, each under the source of the date or age of that change. -/
theorem verdict_present (since elapsed : Option Json) :
    verdict? source (PresenceForm.within true since elapsed) situation =
      conjunction (verdict? source (PresenceForm.within true none none) situation ::
        (verdictsGiven situation (.sinceDate source) since ++
          verdictsGiven situation (.elapsedTime source) elapsed)) := by
  rw [verdict_bare, verdict_within, conjunction_cons, conjunction_append, conjunction_given,
    conjunction_given]
  cases Semantics.given? meaning? (.sinceDate source) since with
  | none => rfl
  | some since =>
    cases Semantics.given? meaning? (.elapsedTime source) elapsed with
    | none => rfl
    | some elapsed =>
      refine congrArg some ?_
      show (presence () source true since elapsed).holds situation =
        ((presence () source true none none).holds situation && (holdsIfGiven situation since &&
          holdsIfGiven situation elapsed))
      rw [holds_present, holds_bare, Bool.and_assoc]

/-- Where an absence is asked for, the criteria on a change must be readable, but do not count. -/
theorem verdict_absent {since elapsed : Option Json} {verdict : Bool}
    (h : verdict? source (PresenceForm.within false since elapsed) situation = some verdict) :
    verdict? source (PresenceForm.within false none none) situation = some verdict := by
  rw [verdict_within] at h
  obtain ⟨since, _, h⟩ := Option.bind_eq_some_iff.1 h
  obtain ⟨elapsed, _, h⟩ := Option.map_eq_some_iff.1 h
  rw [verdict_bare, ← h, holds_absent, holds_absent]

/-! ### The laws -/

/-- The laws of presences of a source, as trees and as they are written. -/
structure PresenceLaws (mark : α) (source : Source) (situation : Situation) : Prop where
  /-- Either presence or absence holds. -/
  either : (presence mark source true none none).holds situation =
    !(presence mark source false none none).holds situation
  either_written : ∃ verdict,
    verdict? source (PresenceForm.within true none none) situation = some verdict ∧
      verdict? source (PresenceForm.within false none none) situation = some !verdict
  absent : ∀ since elapsed, (presence mark source false since elapsed).holds situation =
    (presence mark source false none none).holds situation
  present : ∀ since elapsed, (presence mark source true since elapsed).holds situation =
    ((presence mark source true none none).holds situation && holdsIfGiven situation since &&
      holdsIfGiven situation elapsed)
  absent_written : ∀ since elapsed verdict,
    verdict? source (PresenceForm.within false since elapsed) situation = some verdict →
      verdict? source (PresenceForm.within false none none) situation = some verdict
  present_written : ∀ since elapsed,
    verdict? source (PresenceForm.within true since elapsed) situation =
      conjunction (verdict? source (PresenceForm.within true none none) situation ::
        (verdictsGiven situation (.sinceDate source) since ++
          verdictsGiven situation (.elapsedTime source) elapsed))
  /-- What passes a test is present. -/
  of_answer : ∀ question, answer mark source situation question = true →
    (presence mark source true none none).holds situation = true

/-- The laws hold of every source in every situation. -/
theorem presence_laws (mark : α) (source : Source) (situation : Situation) :
    PresenceLaws mark source situation where
  either := by rw [holds_bare, holds_absent, Bool.not_not]
  either_written := by
    refine ⟨(situation.observe source).isSome, ?_, ?_⟩
    · rw [verdict_bare, holds_bare]
    · rw [verdict_bare, holds_absent]
  absent _ _ := by rw [holds_absent, holds_absent]
  present _ _ := by rw [holds_present, holds_bare]
  absent_written _ _ _ := verdict_absent
  present_written := verdict_present
  of_answer _ h := by rw [holds_bare, observed_of_answer h]

end Criterion

end Audience
