import Audience.Verdict
import Mathlib.Data.String.Basic

/-!
# The operators together

The tests of a criterion are tried on one value, or on the items of an array. An order at most one way
holds between two values, so that the operators fit together: what is at least a literal is greater or
equal, and a text is at least any text that it starts with.

* **`Operator.any_accepts_greaterOrEqual`**, **`Operator.any_accepts_lessOrEqual`**: how an operator is
  made of others, for one value. **`Datum.someItem_or`**: the items of an array share out an alternative.
* **`Datum.isArray`**, **`Datum.count_orders`**: of a value that is no array one of less, equal and
  greater holds if it can be ordered to the literal, and else none.
* **`Datum.isOrdered_of_startsWith`**: texts that start with a text are at least that text.
* **`Criterion.answer`**: the verdict on a test of a source. **`Criterion.Consistent`**,
  **`Criterion.consistent_answer`**: the verdicts on all tests of one source fit together.
-/

namespace Audience

/-! ### Orders -/

namespace Operator

theorem any_accepts_greaterOrEqual (order : Option Ordering) :
    order.any greaterOrEqual.accepts = (order.any greater.accepts || order == some .eq) := by
  cases order with
  | none => rfl
  | some order => cases order <;> rfl

theorem any_accepts_lessOrEqual (order : Option Ordering) :
    order.any lessOrEqual.accepts = (order.any less.accepts || order == some .eq) := by
  cases order with
  | none => rfl
  | some order => cases order <;> rfl

end Operator

namespace Datum

variable {now : Int} {actual : Datum} {value : Literal}

/-! ### Items -/

/-- Whether the value is an array. -/
def isArray : Datum → Bool
  | json (.array _) => true
  | _ => false

theorem exists_items (h : actual.isArray = true) : ∃ items, actual = json (.array items) := by
  cases actual with
  | json value =>
    cases value with
    | array items => exact ⟨items, rfl⟩
    | _ => cases h
  | _ => cases h

/-- A value that is no array is tried itself. -/
theorem someItem_of_not_array (h : actual.isArray = false) (p : Datum → Bool) :
    actual.someItem p = p actual := by
  unfold someItem
  split
  · cases h
  · rfl

theorem someItem_or (actual : Datum) (p q : Datum → Bool) :
    (actual.someItem fun item => p item || q item) = (actual.someItem p || actual.someItem q) := by
  cases harray : actual.isArray with
  | false => rw [someItem_of_not_array harray, someItem_of_not_array harray, someItem_of_not_array harray]
  | true =>
    obtain ⟨items, rfl⟩ := exists_items harray
    rw [Bool.eq_iff_iff, Bool.or_eq_true]
    simp only [someItem, List.any_eq_true, Bool.or_eq_true, and_or_left, exists_or]

theorem someItem_of_imp {p q : Datum → Bool} (h : ∀ item, p item = true → q item = true)
    (hp : actual.someItem p = true) : actual.someItem q = true := by
  cases harray : actual.isArray with
  | false =>
    rw [someItem_of_not_array harray] at hp ⊢
    exact h actual hp
  | true =>
    obtain ⟨items, rfl⟩ := exists_items harray
    obtain ⟨item, hmem, hitem⟩ := List.any_eq_true.1 hp
    exact List.any_eq_true.2 ⟨item, hmem, h _ hitem⟩

/-- An item is at least a literal if one is greater or one is equal, not always the same one. -/
theorem isOrdered_greaterOrEqual : actual.isOrdered now .greaterOrEqual value =
    (actual.isOrdered now .greater value || actual.hasEqual now value) := by
  rw [isOrdered, isOrdered, hasEqual, ← someItem_or]
  congr 1
  funext item
  exact Operator.any_accepts_greaterOrEqual _

theorem isOrdered_lessOrEqual : actual.isOrdered now .lessOrEqual value =
    (actual.isOrdered now .less value || actual.hasEqual now value) := by
  rw [isOrdered, isOrdered, hasEqual, ← someItem_or]
  congr 1
  funext item
  exact Operator.any_accepts_lessOrEqual _

/-! ### Values that are no arrays -/

/-- The verdicts on less, equal and greater. -/
def orders (now : Int) (actual : Datum) (value : Literal) : List Bool :=
  [.order .less value, .equal value, .order .greater value].map (actual.passes now)

/-- One of the three holds of a value that can be ordered to the literal, and none of any other. -/
theorem count_orders (h : actual.isArray = false) :
    (actual.orders now value).count true = if (actual.order? now value).isSome then 1 else 0 := by
  have horders : actual.orders now value =
      [(actual.order? now value).any (· == .lt), actual.order? now value == some .eq,
        (actual.order? now value).any (· == .gt)] := by
    simp only [orders, List.map_cons, List.map_nil, passes, isOrdered, hasEqual,
      someItem_of_not_array h]
    rfl
  rw [horders]
  cases actual.order? now value with
  | none => rfl
  | some order => cases order <;> rfl

/-! ### Texts -/

/-- A text does not come before one that it starts with. -/
theorem compare_ne_lt {text front : String} (h : front.toList.isPrefixOf text.toList = true) :
    compare text front ≠ .lt := by
  intro hlt
  have hbelow : text < front := compareOfLessAndEq_eq_lt.1 hlt
  rw [String.lt_iff_toList_lt] at hbelow
  exact (List.isPrefixOf_iff_prefix.1 h).le hbelow

theorem isOrdered_of_startsWith {front : String} (h : actual.startsWith front = true) :
    actual.isOrdered now .greaterOrEqual (.text front) = true := by
  refine someItem_of_imp ?_ h
  intro item hitem
  cases item with
  | json value =>
    cases value with
    | string text =>
      show (compare text front != .lt) = true
      exact bne_iff_ne.2 (compare_ne_lt hitem)
    | _ => cases hitem
  | _ => cases hitem

end Datum

/-! ### Verdicts -/

namespace Criterion

variable {α : Type}

/-- The verdict on a test of a source. -/
def answer (mark : α) (source : Source) (situation : Situation) (question : Test) : Bool :=
  (test mark source question).holds situation

variable {mark : α} {source : Source} {situation : Situation}

/-- The value of a source decides, and without one every test fails. -/
theorem answer_eq (question : Test) : answer mark source situation question =
    (situation.resolve source).value?.any fun actual => actual.passes situation.now question := by
  rw [answer, holds, testHolds]

theorem answer_any (values : List Literal) : answer mark source situation (.any values) =
    values.any fun value => answer mark source situation (.equal value) := by
  simp only [answer_eq]
  cases (situation.resolve source).value? with
  | none => simp
  | some actual => rfl

theorem answer_all (values : List Literal) : answer mark source situation (.all values) =
    ((situation.resolve source).value?.isSome &&
      values.all fun value => answer mark source situation (.equal value)) := by
  simp only [answer_eq]
  cases (situation.resolve source).value? with
  | none => rfl
  | some actual => rfl

/-- Verdicts on tests of one value, if there is one, that fit together. -/
structure Consistent (now : Int) (value? : Option Datum) (verdict : Test → Bool) : Prop where
  greaterOrEqual : ∀ literal, verdict (.order .greaterOrEqual literal) =
    (verdict (.order .greater literal) || verdict (.equal literal))
  lessOrEqual : ∀ literal, verdict (.order .lessOrEqual literal) =
    (verdict (.order .less literal) || verdict (.equal literal))
  any : ∀ literals, verdict (.any literals) = literals.any fun literal => verdict (.equal literal)
  /-- Asking for all asks for a value, also where no literal is given. -/
  all : ∀ literals, verdict (.all literals) =
    (value?.isSome && literals.all fun literal => verdict (.equal literal))
  any_singleton : ∀ literal, verdict (.any [literal]) = verdict (.equal literal)
  all_singleton : ∀ literal, verdict (.all [literal]) = verdict (.equal literal)
  /-- A value that is no array is less than a literal, equal to it or greater in one way if it can be
  ordered to it, and else in none. -/
  count_orders : ∀ value, value? = some value → value.isArray = false → ∀ literal,
    ([.order .less literal, .equal literal, .order .greater literal].map verdict).count true =
      if (value.order? now literal).isSome then 1 else 0
  startsWith : ∀ front, verdict (.startsWith front) = true →
    verdict (.order .greaterOrEqual (.text front)) = true

/-- The verdicts on all tests of one source fit together, in every situation and whatever the source
resolves to. -/
theorem consistent_answer (mark : α) (source : Source) (situation : Situation) :
    Consistent situation.now (situation.resolve source).value? (answer mark source situation) where
  greaterOrEqual literal := by
    simp only [answer_eq]
    cases (situation.resolve source).value? with
    | none => rfl
    | some value => exact Datum.isOrdered_greaterOrEqual
  lessOrEqual literal := by
    simp only [answer_eq]
    cases (situation.resolve source).value? with
    | none => rfl
    | some value => exact Datum.isOrdered_lessOrEqual
  any := answer_any
  all := answer_all
  any_singleton literal := by rw [answer_any, List.any_cons, List.any_nil, Bool.or_false]
  all_singleton literal := by
    rw [answer_all, List.all_cons, List.all_nil, Bool.and_true, answer_eq]
    cases (situation.resolve source).value? <;> rfl
  count_orders value hvalue harray literal := by
    have hpasses : answer mark source situation = value.passes situation.now := by
      funext question
      rw [answer_eq, hvalue, Option.any_some]
    rw [hpasses]
    exact Datum.count_orders harray
  startsWith front hfront := by
    rw [answer_eq] at hfront ⊢
    cases hvalue : (situation.resolve source).value? with
    | none =>
      rw [hvalue] at hfront
      cases hfront
    | some value =>
      rw [hvalue] at hfront
      exact Datum.isOrdered_of_startsWith hfront

-- items of an array may stand in different orders to a literal
example : (Datum.json (.array [.string "a", .string "c"])).orders 0 (.text "b") =
    [true, false, true] := by decide

end Criterion

end Audience
