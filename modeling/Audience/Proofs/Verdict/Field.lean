import Audience.Proofs.Criterion.FieldNesting
import Audience.Proofs.Verdict.Recency

/-!
# Questions about custom fields

* **`Situation.fieldValue?`**: what a subject holds in a custom field.
* **`Criterion.fieldQuestion`**: the document that asks something of a custom field.
* **`Criterion.exists_read_fieldRelation`**: how a field with a value that is no array is compared with
  a literal.
-/

namespace Audience

open Recency (Relation)

namespace Situation

/-- What is held in the custom field that segments lead to from a source. -/
def fieldValue? (situation : Situation) (source : Source) (segments : List String) : Option Json :=
  let (start, path) := fieldChain source segments
  (situation.scope? start).bind fun record => record.field? path

/-- The value of a field is what is held there. -/
theorem value?_field (situation : Situation) (source : Source) (segments : List String) :
    (situation.resolve (.field source segments)).value? =
      (situation.fieldValue? source segments).map .json := by
  rw [resolve, resolveField, fieldValue?]
  dsimp only
  cases situation.scope? (fieldChain source segments).1 with
  | none => rfl
  | some record =>
    show (fieldOf record _).value? = (record.field? _).map _
    rw [fieldOf]
    cases record.field? (fieldChain source segments).2 <;> rfl

end Situation

namespace Criterion

/-- A document that asks something of a custom field. -/
def fieldQuestion (path : String) (keyword : Keyword) (value : Json) : Json :=
  .object [("." ++ path, .object [(keyword.key, value)])]

variable {source : Source} {path : String} {segments : List String} {value : Json}

/-- Below the key of a field a document is about that field. -/
theorem meaning_below_field (hfields : source.hasFields = true)
    (hpath : Semantics.fieldPath? path = some segments) (document : Json) :
    meaning? source (.object [("." ++ path, document)]) =
      meaning? (.field source segments) document := by
  rw [meaning_field, hpath, Option.bind_some, Semantics.fieldBelow?, if_pos hfields,
    Option.bind_some]

/-- A question about a field is decided by what is held there, and fails where nothing is. -/
theorem testHolds_field (situation : Situation) (source : Source) (segments : List String)
    (question : Test) :
    testHolds situation (.field source segments) question =
      (situation.fieldValue? source segments).any fun actual =>
        (Datum.json actual).passes situation.now question := by
  rw [testHolds, Situation.value?_field, Option.any_map]

/-- A field whose value is no array stands in a relation to a literal if its order to the literal
does. -/
theorem exists_read_fieldRelation (place : Place) {literal : Literal}
    (hfields : place.source.hasFields = true) (hpath : Semantics.fieldPath? path = some segments)
    (relation : Relation)
    (hliteral : Semantics.literal? (.field place.source segments) value = some literal)
    (hlimits : place.InLimits (fieldQuestion path relation.keyword value)) :
    ∃ c, read (fieldQuestion path relation.keyword value) place = .ok c ∧
      ∀ situation actual, situation.fieldValue? place.source segments = some actual →
        (∀ test, (Datum.json actual).someItem test = test (.json actual)) →
        c.holds situation =
          ((Datum.json actual).order? situation.now literal).any relation.accepts := by
  have hmeaning : meaning? place.source (fieldQuestion path relation.keyword value) =
      some (.test () (.field place.source segments) (relation.test literal)) := by
    rw [fieldQuestion, meaning_below_field hfields hpath]
    exact Recency.meaning_relation rfl hliteral
  obtain ⟨c, hc, hholds⟩ := exists_read hlimits hmeaning
  refine ⟨c, hc, ?_⟩
  intro situation actual hactual hitem
  rw [hholds, holds, testHolds_field, hactual]
  exact Recency.passes_relation hitem relation

end Criterion

end Audience
