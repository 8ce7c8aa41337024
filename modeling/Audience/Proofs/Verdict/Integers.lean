import Mathlib.Algebra.Order.Ring.Int
import Audience.Proofs.Numeric.Integers
import Audience.Proofs.Verdict.Field

/-!
# Integers in fields and integers in criteria

* **`Criterion.integers_compare`**: integers are compared as the binary64 numbers nearest to them, which
  is as integers unless they are large and have the same one.
-/

namespace Audience.Criterion

open Recency (Relation)

/-- A field that holds an integer stands in a relation to an integer exactly if the two integers do, as
long as they are not nearest to the same number; otherwise they count as equal. Different integers are
nearest to the same number only if they have the same sign and are at least `2 ^ 53` in magnitude. -/
theorem integers_compare (place : Place) {path : String} {segments : List String}
    (hfields : place.source.hasFields = true) (hpath : Semantics.fieldPath? path = some segments)
    {m n : Int} (hm : -(2 ^ 63) ≤ m ∧ m < 2 ^ 64) (hn : -(2 ^ 63) ≤ n ∧ n < 2 ^ 64)
    (relation : Relation)
    (hlimits : place.InLimits (fieldQuestion path relation.keyword (.number (.integer m hm)))) :
    (∃ c, read (fieldQuestion path relation.keyword (.number (.integer m hm))) place = .ok c ∧
      ∀ situation, situation.fieldValue? place.source segments = some (.number (.integer n hn)) →
        c.holds situation = relation.accepts
          (if Binary64.ofInt n = Binary64.ofInt m then .eq else compare n m)) ∧
    (Binary64.ofInt n = Binary64.ofInt m → n ≠ m →
      2 ^ 53 ≤ n.natAbs ∧ 2 ^ 53 ≤ m.natAbs ∧ (n < 0 ↔ m < 0)) := by
  have hmWord : m.natAbs ≤ 2 ^ 64 := by omega
  have hnWord : n.natAbs ≤ 2 ^ 64 := by omega
  refine ⟨?_, Binary64.large_of_ofInt_eq hnWord hmWord⟩
  have hliteral : Semantics.literal? (.field place.source segments) (.number (.integer m hm)) =
      some (.number (.ofInt m)) := rfl
  obtain ⟨c, hc, hholds⟩ := exists_read_fieldRelation place hfields hpath relation hliteral hlimits
  refine ⟨c, hc, ?_⟩
  intro situation hactual
  have horder : (Datum.json (.number (.integer n hn))).order? situation.now
      (.number (.ofInt m)) = (Binary64.ofInt n).order? (.ofInt m) := rfl
  rw [hholds situation _ hactual fun _ => rfl, horder, Binary64.order?_ofInt hnWord hmWord,
    Option.any_some]

/-- A counter of three is greater than two. -/
theorem integers_compare_three :
    ∃ c, read (fieldQuestion "p" (.order .greater) (.number (.integer 2 (by decide))))
        (.root .standard) = .ok c ∧
      c.holds (.ofSubject ⟨some (Record.empty.withProperty "p"
        (.number (.integer 3 (by decide)))), none, []⟩ 0) = true := by
  have hpath : Semantics.fieldPath? "p" = some ["p"] := by decide +kernel
  obtain ⟨⟨c, hc, hholds⟩, _⟩ := integers_compare (.root .standard) rfl hpath (m := 2) (n := 3)
    (by decide) (by decide) (.order .greater) (.room (by unfold Place.HasRoom; decide +kernel))
  refine ⟨c, hc, ?_⟩
  rw [hholds _ rfl]
  decide +kernel

/-- The first integer that is no binary64 number equals the one before it. -/
theorem integers_compare_past_exact :
    ∃ (c : PlacedCriterion) (situation : Situation),
      read (fieldQuestion "p" .equal (.number (.integer 9007199254740992 (by decide))))
        (.root .standard) = .ok c ∧
      situation.fieldValue? .installation ["p"] =
        some (.number (.integer 9007199254740993 (by decide))) ∧
      c.holds situation = true := by
  have hpath : Semantics.fieldPath? "p" = some ["p"] := by decide +kernel
  have hliteral : Semantics.literal? (.field .installation ["p"])
      (.number (.integer 9007199254740992 (by decide))) =
        some (.number (.ofInt 9007199254740992)) := rfl
  obtain ⟨c, hc, hholds⟩ := exists_read_fieldRelation (.root .standard) rfl hpath .equal hliteral
    (.room (by unfold Place.HasRoom; decide +kernel))
  refine ⟨c, .ofSubject ⟨some (Record.empty.withProperty "p"
    (.number (.integer 9007199254740993 (by decide)))), none, []⟩ 0, hc, rfl, ?_⟩
  rw [hholds _ _ rfl fun _ => rfl]
  decide +kernel

end Audience.Criterion
