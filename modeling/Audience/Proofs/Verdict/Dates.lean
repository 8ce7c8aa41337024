import Audience.Proofs.Literal.Shorthand
import Audience.Proofs.Verdict.Field

/-!
# Dates in fields and dates in criteria

A date in a criterion is an RFC 3339 text or a day alone. A text in a field counts as a date only if it
is an RFC 3339 text. One that is both is the same instant; a day alone compares with no date.

* **`Datum.order?_dated`**: how a text that is a date in a criterion is compared with one.
* **`Criterion.dates_compare`**: the verdicts on a field that holds such a text.
-/

namespace Audience

open Recency (Relation)

variable {s : String} {t t' : Instant}

/-- What is read of a typed date. -/
theorem Literal.exists_date {p : Place} {x : Json} {literal : Literal}
    (h : ofJson p (typed "date" x) = .ok literal) : ∃ t, date? x = some t ∧ literal = .date t := by
  obtain ⟨_, t, ht, hliteral⟩ := ofJson_date_eq_ok_iff.1 h
  exact ⟨t, ht, hliteral.symm⟩

/-- A typed date is a literal under every source. -/
theorem Semantics.literal?_date {x : Json} (source : Source) (h : Literal.date? x = some t) :
    literal? source (Literal.typed "date" x) = some (.date t) := by
  have hdepth : (Criterion.roomFor source (Literal.typed "date" x)).depth <
      (Criterion.roomFor source (Literal.typed "date" x)).limits.maxDepth :=
    Nat.lt_of_le_of_lt (Nat.zero_le _) (Json.height_lt_of_member List.mem_cons_self)
  have hread : Literal.ofJson (Criterion.roomFor source (Literal.typed "date" x))
      (Literal.typed "date" x) = .ok (.date t) :=
    Literal.ofJson_date_eq_ok_iff.2 ⟨hdepth, t, h, rfl⟩
  rw [literal?, hread]
  rfl

namespace Datum

/-- A text that is a date in a criterion is compared as the same instant if it is an RFC 3339 text, and
with nothing if it is a day alone. -/
theorem order?_dated (h : Literal.date? (.string s) = some t) (now : Int) :
    (json (.string s)).order? now (.date t') =
      if (Timestamp.strict? s.toList).isSome then some (compare t.millis t'.millis) else none := by
  show ((Timestamp.strict? s.toList).bind fun instant => some (compare instant.millis t'.millis)) = _
  cases hstrict : Timestamp.strict? s.toList with
  | none => rfl
  | some instant =>
    have hsame : instant = t := by
      rw [Literal.date?, hstrict] at h
      exact Option.some.inj h
    rw [hsame]
    rfl

end Datum

namespace Criterion

variable {s' path : String} {segments : List String} {literal literal' : Literal}
variable {p p' : Place}

/-- Two texts that are dates in criteria stand for an instant each. A field that holds the first one
stands in a relation to the date of the second one exactly if the instants do and the first text is an
RFC 3339 text. So it equals its own date exactly if it is one. -/
theorem dates_compare (place : Place) (hfields : place.source.hasFields = true)
    (hpath : Semantics.fieldPath? path = some segments)
    (hs : Literal.ofJson p (Literal.typed "date" (.string s)) = .ok literal)
    (hs' : Literal.ofJson p' (Literal.typed "date" (.string s')) = .ok literal')
    (relation : Relation)
    (hlimits : place.InLimits
      (fieldQuestion path relation.keyword (Literal.typed "date" (.string s')))) :
    ∃ t t' c, (∀ now, literal.instant? now = some t) ∧ (∀ now, literal'.instant? now = some t') ∧
      (s = s' → t = t') ∧
      read (fieldQuestion path relation.keyword (Literal.typed "date" (.string s'))) place = .ok c ∧
      ∀ situation, situation.fieldValue? place.source segments = some (.string s) →
        c.holds situation =
          ((Timestamp.strict? s.toList).isSome && relation.accepts (compare t t')) := by
  obtain ⟨t, ht, rfl⟩ := Literal.exists_date hs
  obtain ⟨t', ht', rfl⟩ := Literal.exists_date hs'
  obtain ⟨c, hc, hholds⟩ := exists_read_fieldRelation place hfields hpath relation
    (Semantics.literal?_date _ ht') hlimits
  refine ⟨t.millis, t'.millis, c, fun _ => rfl, fun _ => rfl, ?_, hc, ?_⟩
  · rintro rfl
    rw [Option.some.inj (ht.symm.trans ht')]
  · intro situation hactual
    rw [hholds situation _ hactual fun _ => rfl, Datum.order?_dated ht]
    cases (Timestamp.strict? s.toList).isSome <;> rfl

/-- Noon of a day, in a field, is before the next day. -/
theorem dates_compare_noon :
    ∃ c, read (fieldQuestion "p" (.order .less) (Literal.typed "date" (.string "2024-06-02")))
        (.root .standard) = .ok c ∧
      c.holds (.ofSubject ⟨some (Record.empty.withProperty "p" (.string "2024-06-01T12:00:00Z")),
        none, []⟩ 0) = true := by
  let noon : Instant := ⟨1717243200, 0, by decide, by decide, by decide⟩
  let next : Instant := ⟨1717286400, 0, by decide, by decide, by decide⟩
  have hnoon : Literal.ofJson (.root .standard)
      (Literal.typed "date" (.string "2024-06-01T12:00:00Z")) = .ok (.date noon) :=
    Literal.ofJson_date_eq_ok_iff.2 ⟨by decide, noon, by decide +kernel, rfl⟩
  have hnext : Literal.ofJson (.root .standard)
      (Literal.typed "date" (.string "2024-06-02")) = .ok (.date next) :=
    Literal.ofJson_date_eq_ok_iff.2 ⟨by decide, next, by decide +kernel, rfl⟩
  have hpath : Semantics.fieldPath? "p" = some ["p"] := by decide +kernel
  obtain ⟨t, t', c, ht, ht', _, hc, hholds⟩ := dates_compare (.root .standard) rfl hpath hnoon
    hnext (.order .less) (.room (by unfold Place.HasRoom; decide +kernel))
  refine ⟨c, hc, ?_⟩
  rw [hholds _ rfl, ← Option.some.inj (ht 0), ← Option.some.inj (ht' 0)]
  decide +kernel

/-- A day alone is a date in a criterion, but a field that holds it does not equal that date. -/
theorem day_alone_ne_itself :
    ∃ (literal : Literal) (c : PlacedCriterion) (situation : Situation),
      Literal.ofJson (.root .standard) (Literal.typed "date" (.string "2024-06-01")) = .ok literal ∧
      read (fieldQuestion "p" .equal (Literal.typed "date" (.string "2024-06-01")))
        (.root .standard) = .ok c ∧
      situation.fieldValue? .installation ["p"] = some (.string "2024-06-01") ∧
      c.holds situation = false := by
  let midnight : Instant := ⟨1717200000, 0, by decide, by decide, by decide⟩
  have hdate : Literal.date? (.string "2024-06-01") = some midnight := by decide +kernel
  have hpath : Semantics.fieldPath? "p" = some ["p"] := by decide +kernel
  obtain ⟨c, hc, hholds⟩ := exists_read_fieldRelation (.root .standard) rfl hpath .equal
    (Semantics.literal?_date _ hdate) (.room (by unfold Place.HasRoom; decide +kernel))
  refine ⟨.date midnight, c,
    .ofSubject ⟨some (Record.empty.withProperty "p" (.string "2024-06-01")), none, []⟩ 0,
    ?_, hc, rfl, ?_⟩
  · exact Literal.ofJson_date_eq_ok_iff.2 ⟨by decide, midnight, hdate, rfl⟩
  · have hday : (Timestamp.strict? "2024-06-01".toList).isSome = false := by decide +kernel
    rw [hholds _ _ rfl fun _ => rfl, Datum.order?_dated hdate, hday]
    rfl

end Criterion

end Audience
