import Audience.Registry
import Mathlib.Data.List.Induction
import Mathlib.Data.List.Nodup
import Mathlib.Data.Set.Function
import Mathlib.Order.Interval.Set.Basic

/-!
# Runs of a registry

A client names segments by ids. The id of a registration is drawn when it succeeds: `draw n` is the id
of the one after `n` others. The draws of a run are taken to be distinct, which for ids of a fixed size
can be asked of finitely many draws only.

* **`Request`**, **`Answer`**, **`Registry.answer`**: what a client asks and what it is told.
* **`Registry.run`**: the registry after a list of requests.
* **`Registry.Change`**, **`Registry.change_answer`**: all that a request can do to a registry.
* **`Registry.Sound`**: numbers are given once, and each criterion was read from its document.
* **`Registry.Retired`**: a number that was given and will not come back.
* **`Registry.mem_answer_iff`**, **`Registry.mem_run_iff`**: which segments there are after a request,
  and after a run.
* **`Registry.registered_mem_membersOf_iff`**: who belongs to a new segment.
* **`Registry.faithful_of_distinct`**: what a registry owes its client, over every run.
-/

namespace Audience

/-- What a client asks of a registry. -/
inductive Request (ι : Type)
  | register (name : String) (document : Json)
  | get (id : ι)
  | remove (id : ι)
  | evaluate (subject : Subject) (now : Int)

/-- What a registry tells a client. A removal gives the segment that was taken out. -/
inductive Answer (ι : Type)
  | registered (outcome : Except Rejection ι)
  | segment (found : Option Segment)
  | members (ids : List ι)

namespace Registry

variable {ι : Type} [DecidableEq ι] {draw : ℕ → ι} {limits : Limits} {registry : Registry}
  {segment : Segment} {request : Request ι} {requests : List (Request ι)} {id : ι}

/-! ### Requests -/

/-- The number of the registration that drew an id. -/
def numberOf? (draw : ℕ → ι) (registry : Registry) (id : ι) : Option ℕ :=
  (List.range registry.registered).find? fun number => draw number = id

/-- The segment with an id. -/
def find? (draw : ℕ → ι) (registry : Registry) (id : ι) : Option Segment :=
  (registry.numberOf? draw id).bind registry.get?

/-- The ids of the segments a subject belongs to at an instant. -/
def idsOf (draw : ℕ → ι) (registry : Registry) (subject : Subject) (now : ℤ) : List ι :=
  (registry.membersOf subject now).map draw

/-- The answer to a request, and the registry afterwards. -/
def answer (draw : ℕ → ι) (registry : Registry) : Request ι → Answer ι × Registry
  | .register name document =>
      match registry.register name document with
      | .ok (number, next) => (.registered (.ok (draw number)), next)
      | .error rejection => (.registered (.error rejection), registry)
  | .get id => (.segment (registry.find? draw id), registry)
  | .remove id =>
      (.segment (registry.find? draw id),
        (registry.numberOf? draw id).elim registry registry.remove)
  | .evaluate subject now => (.members (registry.idsOf draw subject now), registry)

/-- The registry after a list of requests. -/
def run (draw : ℕ → ι) (registry : Registry) (requests : List (Request ι)) : Registry :=
  requests.foldl (fun registry request => (registry.answer draw request).2) registry

/-- The draws of a registry's registrations are distinct. -/
def DistinctDraws (draw : ℕ → ι) (registry : Registry) : Prop :=
  Set.InjOn draw (Set.Iio registry.registered)

@[simp] theorem run_nil : registry.run draw [] = registry := rfl

theorem run_cons : registry.run draw (request :: requests) =
    (registry.answer draw request).2.run draw requests := rfl

theorem run_append {more : List (Request ι)} :
    registry.run draw (requests ++ more) = (registry.run draw requests).run draw more :=
  List.foldl_append

theorem run_concat : registry.run draw (requests ++ [request]) =
    ((registry.run draw requests).answer draw request).2 := run_append

/-! ### Searches -/

/-- What is sought is found, if there is one at most. -/
theorem find?_eq_some_iff_of_unique {α : Type} {p : α → Bool} {list : List α} {a : α}
    (hunique : ∀ b ∈ list, ∀ c ∈ list, p b = true → p c = true → b = c) :
    list.find? p = some a ↔ a ∈ list ∧ p a = true := by
  constructor
  · intro h
    exact ⟨List.mem_of_find?_eq_some h, List.find?_some h⟩
  · intro ⟨hmem, ha⟩
    obtain ⟨found, hfound⟩ := Option.isSome_iff_exists.1 (List.find?_isSome.2 ⟨a, hmem, ha⟩)
    rw [hfound, hunique found (List.mem_of_find?_eq_some hfound) a hmem (List.find?_some hfound) ha]

/-! ### Changes -/

/-- The registry with one more segment, under the next number. -/
def adding (registry : Registry) (name : String) (document : Json) (criterion : PlacedCriterion) :
    Registry :=
  { registry with
    registered := registry.registered + 1
    segments := registry.segments ++ [⟨registry.registered, name, document, criterion⟩] }

/-- How a request may change a registry. -/
inductive Change (registry : Registry) : Registry → Prop
  | unchanged : Change registry registry
  | added {name : String} {document : Json} {criterion : PlacedCriterion}
      (hread : Criterion.ofJson registry.limits document = .ok criterion) :
      Change registry (registry.adding name document criterion)
  | removed (number : ℕ) : Change registry (registry.remove number)

section

variable {name : String} {document : Json} {criterion : PlacedCriterion} {rejection : Rejection}
  {number : ℕ}

theorem mem_adding_iff : segment ∈ (registry.adding name document criterion).segments ↔
    segment ∈ registry.segments ∨ segment = ⟨registry.registered, name, document, criterion⟩ := by
  rw [adding, List.mem_append, List.mem_singleton]

theorem mem_remove_iff : segment ∈ (registry.remove number).segments ↔
    segment ∈ registry.segments ∧ segment.number ≠ number := by
  simp [remove]

theorem answer_register_ok (h : Criterion.ofJson registry.limits document = .ok criterion) :
    registry.answer draw (.register name document) =
      (.registered (.ok (draw registry.registered)), registry.adding name document criterion) := by
  simp only [answer, register, h]
  rfl

theorem answer_register_error (h : Criterion.ofJson registry.limits document = .error rejection) :
    registry.answer draw (.register name document) =
      (.registered (.error rejection), registry) := by
  simp only [answer, register, h]
  rfl

end

theorem change_answer (draw : ℕ → ι) (registry : Registry) (request : Request ι) :
    Change registry (registry.answer draw request).2 := by
  cases request with
  | register name document =>
    cases hread : Criterion.ofJson registry.limits document with
    | ok criterion =>
      rw [answer_register_ok hread]
      exact .added hread
    | error rejection =>
      rw [answer_register_error hread]
      exact .unchanged
  | get id => exact .unchanged
  | remove id =>
    show Change registry ((registry.numberOf? draw id).elim registry registry.remove)
    cases registry.numberOf? draw id with
    | none => exact .unchanged
    | some number => exact .removed number
  | evaluate subject now => exact .unchanged

/-! ### What is kept -/

/-- The limits are those of the engine, numbers are given once, and each criterion was read from the
document it is kept with. -/
structure Sound (limits : Limits) (registry : Registry) : Prop where
  limits_eq : registry.limits = limits
  given : ∀ segment ∈ registry.segments, segment.number < registry.registered
  once : registry.numbers.Nodup
  read : ∀ segment ∈ registry.segments,
    Criterion.ofJson limits segment.document = .ok segment.criterion

theorem sound_empty : Sound limits (empty limits) where
  limits_eq := rfl
  given := by simp [empty]
  once := List.nodup_nil
  read := by simp [empty]

namespace Sound

theorem adding (h : Sound limits registry) {name : String} {document : Json}
    {criterion : PlacedCriterion} (hread : Criterion.ofJson limits document = .ok criterion) :
    Sound limits (registry.adding name document criterion) where
  limits_eq := h.limits_eq
  given := by
    intro segment hmem
    rcases mem_adding_iff.1 hmem with hmem | rfl
    · exact Nat.lt_succ_of_lt (h.given segment hmem)
    · exact Nat.lt_succ_self _
  once := by
    -- the new number is not among the old ones, which are all smaller
    have hnew : registry.registered ∉ registry.numbers := by
      intro hmem
      obtain ⟨segment, hsegment, hnumber⟩ := List.mem_map.1 hmem
      exact absurd hnumber (h.given segment hsegment).ne
    show ((registry.segments ++ [_]).map Segment.number).Nodup
    rw [List.map_append]
    exact List.nodup_append_comm.1 (List.nodup_cons.2 ⟨hnew, h.once⟩)
  read := by
    intro segment hmem
    rcases mem_adding_iff.1 hmem with hmem | rfl
    · exact h.read segment hmem
    · exact hread

theorem remove (h : Sound limits registry) (number : ℕ) :
    Sound limits (registry.remove number) where
  limits_eq := h.limits_eq
  given := fun segment hmem => h.given segment (mem_remove_iff.1 hmem).1
  once := h.once.sublist (List.filter_sublist.map Segment.number)
  read := fun segment hmem => h.read segment (mem_remove_iff.1 hmem).1

theorem change (h : Sound limits registry) {next : Registry} (hchange : Change registry next) :
    Sound limits next := by
  cases hchange with
  | unchanged => exact h
  | added hread => exact h.adding (h.limits_eq ▸ hread)
  | removed number => exact h.remove number

theorem run (h : Sound limits registry) (draw : ℕ → ι) (requests : List (Request ι)) :
    Sound limits (registry.run draw requests) := by
  induction requests generalizing registry with
  | nil => exact h
  | cons request rest ih => exact ih (h.change (change_answer draw registry request))

/-- Two segments with one number are one segment. -/
theorem eq_of_number (h : Sound limits registry) {first second : Segment}
    (hfirst : first ∈ registry.segments) (hsecond : second ∈ registry.segments)
    (hnumber : first.number = second.number) : first = second :=
  List.inj_on_of_nodup_map h.once hfirst hsecond hnumber

theorem get?_eq_some_iff (h : Sound limits registry) {number : ℕ} :
    registry.get? number = some segment ↔
      segment ∈ registry.segments ∧ segment.number = number := by
  rw [get?, find?_eq_some_iff_of_unique]
  · rw [decide_eq_true_iff]
  · intro first hfirst second hsecond hnumber hnumber'
    exact h.eq_of_number hfirst hsecond
      ((of_decide_eq_true hnumber).trans (of_decide_eq_true hnumber').symm)

end Sound

/-! ### Ids -/

section

variable (hdistinct : DistinctDraws draw registry)
include hdistinct

theorem numberOf?_eq_some_iff {number : ℕ} : registry.numberOf? draw id = some number ↔
    number < registry.registered ∧ draw number = id := by
  rw [numberOf?, find?_eq_some_iff_of_unique]
  · rw [List.mem_range, decide_eq_true_iff]
  · intro first hfirst second hsecond hdraw hdraw'
    exact hdistinct (List.mem_range.1 hfirst) (List.mem_range.1 hsecond)
      ((of_decide_eq_true hdraw).trans (of_decide_eq_true hdraw').symm)

theorem find?_eq_some_iff (h : Sound limits registry) : registry.find? draw id = some segment ↔
    segment ∈ registry.segments ∧ draw segment.number = id := by
  rw [find?, Option.bind_eq_some_iff]
  constructor
  · intro ⟨number, hnumber, hget⟩
    obtain ⟨hmem, rfl⟩ := h.get?_eq_some_iff.1 hget
    exact ⟨hmem, ((numberOf?_eq_some_iff hdistinct).1 hnumber).2⟩
  · intro ⟨hmem, hdraw⟩
    exact ⟨segment.number, (numberOf?_eq_some_iff hdistinct).2 ⟨h.given segment hmem, hdraw⟩,
      h.get?_eq_some_iff.2 ⟨hmem, rfl⟩⟩

theorem find?_eq_none_iff (h : Sound limits registry) : registry.find? draw id = none ↔
    ∀ segment ∈ registry.segments, draw segment.number ≠ id := by
  rw [Option.eq_none_iff_forall_ne_some]
  simp only [ne_eq, find?_eq_some_iff hdistinct h, not_and]

end

/-! ### Removal -/

section

variable (hdistinct : DistinctDraws draw registry) (h : Sound limits registry)
include hdistinct h

theorem answer_remove_of_mem (hmem : segment ∈ registry.segments) :
    registry.answer draw (.remove (draw segment.number)) =
      (.segment (some segment), registry.remove segment.number) := by
  rw [answer, (find?_eq_some_iff hdistinct h).2 ⟨hmem, rfl⟩,
    (numberOf?_eq_some_iff hdistinct).2 ⟨h.given segment hmem, rfl⟩]
  rfl

theorem answer_remove_of_unknown (hnone : ∀ segment ∈ registry.segments, draw segment.number ≠ id) :
    registry.answer draw (.remove id) = (.segment none, registry) := by
  rw [answer, (find?_eq_none_iff hdistinct h).2 hnone]
  cases hnumber : registry.numberOf? draw id with
  | none => rfl
  | some number =>
    -- the id was drawn, but its segment is gone: taking it out again changes nothing
    have hdraw : draw number = id := ((numberOf?_eq_some_iff hdistinct).1 hnumber).2
    have hkept : registry.remove number = registry := by
      have hne : ∀ segment ∈ registry.segments, segment.number ≠ number :=
        fun segment hmem heq => hnone segment hmem (heq ▸ hdraw)
      rw [remove, List.filter_eq_self.2 (by simpa using hne)]
    show (_, registry.remove number) = _
    rw [hkept]

/-! ### Steps and runs -/

/-- After a request there are the segments of before, but for the one it removes, and the one it
registers. -/
theorem mem_answer_iff : segment ∈ (registry.answer draw request).2.segments ↔
    segment ∈ registry.segments ∧ request ≠ .remove (draw segment.number) ∨
      request = .register segment.name segment.document ∧
        Criterion.ofJson limits segment.document = .ok segment.criterion ∧
        segment.number = registry.registered := by
  have hlimits := h.limits_eq
  cases request with
  | get id => simp [answer]
  | evaluate subject now => simp [answer]
  | remove id =>
    simp only [ne_eq, Request.remove.injEq, reduceCtorEq, false_and, or_false]
    by_cases hnone : ∀ other ∈ registry.segments, draw other.number ≠ id
    · rw [answer_remove_of_unknown hdistinct h hnone]
      constructor
      · intro hmem
        exact ⟨hmem, (hnone segment hmem).symm⟩
      · exact And.left
    · push Not at hnone
      obtain ⟨other, hother, rfl⟩ := hnone
      rw [answer_remove_of_mem hdistinct h hother, mem_remove_iff]
      refine and_congr_right fun hmem => not_congr ⟨fun heq => by rw [heq], fun heq => ?_⟩
      exact (hdistinct (h.given other hother) (h.given segment hmem) heq).symm
  | register name document =>
    simp only [ne_eq, reduceCtorEq, not_false_eq_true, and_true, Request.register.injEq]
    subst hlimits
    cases hread : Criterion.ofJson registry.limits document with
    | error rejection =>
      rw [answer_register_error hread]
      constructor
      · exact Or.inl
      · rintro (hmem | ⟨⟨-, rfl⟩, hok, -⟩)
        · exact hmem
        · rw [hread] at hok
          cases hok
    | ok criterion =>
      rw [answer_register_ok hread, mem_adding_iff]
      refine or_congr_right ⟨?_, ?_⟩
      · rintro rfl
        exact ⟨⟨rfl, rfl⟩, hread, rfl⟩
      · obtain ⟨number, givenName, source, tree⟩ := segment
        rintro ⟨⟨rfl, rfl⟩, hok, rfl⟩
        rw [hread] at hok
        cases hok
        rfl

end

theorem Change.registered_le {next : Registry} (h : Change registry next) :
    registry.registered ≤ next.registered := by
  cases h with
  | unchanged => exact le_rfl
  | added _ => exact Nat.le_succ _
  | removed _ => exact le_rfl

theorem registered_le_run : registry.registered ≤ (registry.run draw requests).registered := by
  induction requests generalizing registry with
  | nil => exact le_rfl
  | cons request rest ih => exact (change_answer draw registry request).registered_le.trans ih

/-- The draws before a request are among those of the whole run. -/
theorem DistinctDraws.of_answer (h : DistinctDraws draw (registry.answer draw request).2) :
    DistinctDraws draw registry :=
  Set.InjOn.mono (Set.Iio_subset_Iio (change_answer draw registry request).registered_le) h

theorem DistinctDraws.of_run (h : DistinctDraws draw (registry.run draw requests)) :
    DistinctDraws draw registry :=
  Set.InjOn.mono (Set.Iio_subset_Iio registered_le_run) h

/-- The registered segments are those that were registered and not removed since. -/
theorem mem_run_iff (hdistinct : DistinctDraws draw ((empty limits).run draw requests)) :
    segment ∈ ((empty limits).run draw requests).segments ↔
      ∃ before after, requests = before ++ .register segment.name segment.document :: after ∧
        Criterion.ofJson limits segment.document = .ok segment.criterion ∧
        segment.number = ((empty limits).run draw before).registered ∧
        .remove (draw segment.number) ∉ after := by
  induction requests using List.reverseRecOn with
  | nil => simp [empty]
  | append_singleton requests request ih =>
    rw [run_concat] at hdistinct ⊢
    rw [mem_answer_iff hdistinct.of_answer (sound_empty.run draw requests),
      ih hdistinct.of_answer]
    constructor
    · rintro (⟨⟨before, after, rfl, hread, hnumber, hafter⟩, hrequest⟩ | ⟨rfl, hread, hnumber⟩)
      · refine ⟨before, after ++ [request], by simp, hread, hnumber, ?_⟩
        rw [List.mem_append, List.mem_singleton, not_or]
        exact ⟨hafter, hrequest.symm⟩
      · exact ⟨requests, [], rfl, hread, hnumber, List.not_mem_nil⟩
    · rintro ⟨before, after, heq, hread, hnumber, hafter⟩
      -- either the registration is the last request, or something came after it
      rcases List.eq_nil_or_concat' after with rfl | ⟨after, last, rfl⟩
      · obtain ⟨rfl, hlast⟩ := List.append_inj' heq rfl
        exact .inr ⟨List.head_eq_of_cons_eq hlast, hread, hnumber⟩
      · rw [← List.cons_append, ← List.append_assoc] at heq
        obtain ⟨rfl, hlast⟩ := List.append_inj' heq rfl
        obtain rfl : request = last := List.head_eq_of_cons_eq hlast
        rw [List.mem_append, List.mem_singleton, not_or] at hafter
        exact .inl ⟨⟨before, after, rfl, hread, hnumber, hafter.1⟩, Ne.symm hafter.2⟩

/-! ### Retired numbers -/

/-- A number that was given and is not in use. -/
structure Retired (number : ℕ) (registry : Registry) : Prop where
  given : number < registry.registered
  unused : ∀ segment ∈ registry.segments, segment.number ≠ number

namespace Retired

variable {number : ℕ}

theorem change (h : Retired number registry) {next : Registry} (hchange : Change registry next) :
    Retired number next := by
  cases hchange with
  | unchanged => exact h
  | added _ =>
    refine ⟨Nat.lt_succ_of_lt h.given, fun segment hmem => ?_⟩
    rcases mem_adding_iff.1 hmem with hmem | rfl
    · exact h.unused segment hmem
    · exact h.given.ne'
  | removed other => exact ⟨h.given, fun segment hmem => h.unused segment (mem_remove_iff.1 hmem).1⟩

theorem run (h : Retired number registry) (draw : ℕ → ι) (requests : List (Request ι)) :
    Retired number (registry.run draw requests) := by
  induction requests generalizing registry with
  | nil => exact h
  | cons request rest ih => exact ih (h.change (change_answer draw registry request))

theorem find?_eq_none (h : Retired number registry) (hdistinct : DistinctDraws draw registry)
    (hsound : Sound limits registry) : registry.find? draw (draw number) = none := by
  rw [find?_eq_none_iff hdistinct hsound]
  intro segment hmem hdraw
  exact h.unused segment hmem (hdistinct (hsound.given segment hmem) h.given hdraw)

end Retired

theorem retired_remove (h : Sound limits registry) (hmem : segment ∈ registry.segments) :
    Retired segment.number (registry.remove segment.number) :=
  ⟨h.given segment hmem, fun _ hother => (mem_remove_iff.1 hother).2⟩

/-! ### Members -/

omit [DecidableEq ι] in
theorem mem_idsOf_iff {subject : Subject} {now : ℤ} : id ∈ registry.idsOf draw subject now ↔
    ∃ segment ∈ registry.segments, draw segment.number = id ∧
      segment.criterion.isMetBy subject now = true := by
  simp only [idsOf, membersOf, List.map_map, List.mem_map, List.mem_filter, Function.comp_apply]
  constructor
  · rintro ⟨segment, ⟨hmem, hmet⟩, hdraw⟩
    exact ⟨segment, hmem, hdraw, hmet⟩
  · rintro ⟨segment, hmem, hdraw, hmet⟩
    exact ⟨segment, ⟨hmem, hmet⟩, hdraw⟩

section

variable (hdistinct : DistinctDraws draw registry) (h : Sound limits registry)
include hdistinct h

omit [DecidableEq ι] in
/-- No two segments have one id. -/
theorem nodup_ids : (registry.numbers.map draw).Nodup := by
  have hgiven : ∀ number ∈ registry.numbers, number < registry.registered := by
    intro number hmem
    obtain ⟨segment, hsegment, rfl⟩ := List.mem_map.1 hmem
    exact h.given segment hsegment
  exact h.once.map_on fun first hfirst second hsecond heq =>
    hdistinct (hgiven first hfirst) (hgiven second hsecond) heq

omit [DecidableEq ι] in
theorem nodup_idsOf (subject : Subject) (now : ℤ) : (registry.idsOf draw subject now).Nodup :=
  (nodup_ids hdistinct h).sublist ((List.filter_sublist.map Segment.number).map draw)

omit [DecidableEq ι] in
/-- Of a registered segment, only the tree counts. -/
theorem number_mem_idsOf_iff (hmem : segment ∈ registry.segments) {subject : Subject} {now : ℤ} :
    draw segment.number ∈ registry.idsOf draw subject now ↔
      segment.criterion.isMetBy subject now = true := by
  rw [mem_idsOf_iff]
  constructor
  · rintro ⟨other, hother, hdraw, hmet⟩
    rwa [← h.eq_of_number hother hmem
      (hdistinct (h.given other hother) (h.given segment hmem) hdraw)]
  · intro hmet
    exact ⟨segment, hmem, rfl, hmet⟩

end

/-! ### Members of a new segment -/

section

variable {name : String} {document : Json} {criterion : PlacedCriterion}

theorem register_ok (h : Sound limits registry)
    (hread : Criterion.ofJson limits document = .ok criterion) :
    registry.register name document =
      .ok (registry.registered, registry.adding name document criterion) := by
  obtain rfl := h.limits_eq
  rw [register, hread]
  rfl

end

/-! ### What a registry owes its client -/

/-- What a client that made these requests of an engine with these limits can rely on. -/
structure Faithful (draw : ℕ → ι) (limits : Limits) (requests : List (Request ι))
    (registry : Registry) : Prop where
  /-- The segments are those that were registered and not removed since. -/
  segments_iff : ∀ segment, segment ∈ registry.segments ↔
    ∃ before after, requests = before ++ .register segment.name segment.document :: after ∧
      Criterion.ofJson limits segment.document = .ok segment.criterion ∧
      segment.number = ((empty limits).run draw before).registered ∧
      .remove (draw segment.number) ∉ after
  ids_nodup : (registry.numbers.map draw).Nodup
  /-- The tree of a segment is what its document reads as. -/
  reread : ∀ segment ∈ registry.segments,
    Criterion.ofJson limits segment.document = .ok segment.criterion
  /-- A document that reads as a tree is registered under the next id. -/
  register_ok : ∀ name document criterion, Criterion.ofJson limits document = .ok criterion →
    (registry.answer draw (.register name document)).1 =
      .registered (.ok (draw registry.registered))
  /-- A document that is refused leaves the registry as it is. -/
  register_error : ∀ name document rejection,
    Criterion.ofJson limits document = .error rejection →
      registry.answer draw (.register name document) = (.registered (.error rejection), registry)
  get_keeps : ∀ id, (registry.answer draw (.get id)).2 = registry
  evaluate_keeps : ∀ subject now, (registry.answer draw (.evaluate subject now)).2 = registry
  /-- A look-up gives the segment with the id. -/
  get_iff : ∀ id segment, (registry.answer draw (.get id)).1 = .segment (some segment) ↔
    segment ∈ registry.segments ∧ draw segment.number = id
  /-- A look-up gives the name, the document and the tree of the registration. -/
  get_registered : ∀ before name document after id,
    requests = before ++ .register name document :: after →
    (((empty limits).run draw before).answer draw (.register name document)).1 =
      .registered (.ok id) →
    .remove id ∉ after →
    ∃ segment, (registry.answer draw (.get id)).1 = .segment (some segment) ∧
      segment.name = name ∧ segment.document = document ∧
      Criterion.ofJson limits document = .ok segment.criterion
  /-- The removal of an unknown id leaves the registry as it is. -/
  remove_unknown : ∀ id, (∀ segment ∈ registry.segments, draw segment.number ≠ id) →
    registry.answer draw (.remove id) = (.segment none, registry)
  /-- A removal takes out the segment with the id, and no other. -/
  remove_known : ∀ segment ∈ registry.segments,
    (registry.answer draw (.remove (draw segment.number))).1 = .segment (some segment) ∧
      ∀ other, other ∈ (registry.answer draw (.remove (draw segment.number))).2.segments ↔
        other ∈ registry.segments ∧ other ≠ segment
  /-- What was removed is not found again. -/
  removed_once : ∀ before id after segment, requests = before ++ .remove id :: after →
    (((empty limits).run draw before).answer draw (.remove id)).1 = .segment (some segment) →
    registry.answer draw (.remove id) = (.segment none, registry) ∧
      (registry.answer draw (.get id)).1 = .segment none
  /-- The members are the segments whose tree the subject meets. -/
  members : ∀ subject now, ∃ ids,
    (registry.answer draw (.evaluate subject now)).1 = .members ids ∧ ids.Nodup ∧
      ∀ id, id ∈ ids ↔ ∃ segment ∈ registry.segments, draw segment.number = id ∧
        segment.criterion.isMetBy subject now = true
  /-- Whether a segment is among the members follows from its document: neither the other segments
  matter nor when each was registered. -/
  independent : ∀ (otherDraw : ℕ → ι) otherRequests,
    DistinctDraws otherDraw ((empty limits).run otherDraw otherRequests) →
    ∀ segment ∈ registry.segments,
    ∀ other ∈ ((empty limits).run otherDraw otherRequests).segments,
    segment.document = other.document → ∀ subject now,
      (draw segment.number ∈ registry.idsOf draw subject now ↔
        otherDraw other.number ∈
          ((empty limits).run otherDraw otherRequests).idsOf otherDraw subject now)

theorem find?_of_registered {before after : List (Request ι)} {name : String} {document : Json}
    (hdistinct : DistinctDraws draw ((empty limits).run draw requests))
    (hrequests : requests = before ++ .register name document :: after)
    (hanswer : (((empty limits).run draw before).answer draw (.register name document)).1 =
      .registered (.ok id))
    (hafter : .remove id ∉ after) :
    ∃ segment, ((empty limits).run draw requests).find? draw id = some segment ∧
      segment.name = name ∧ segment.document = document ∧
      Criterion.ofJson limits document = .ok segment.criterion := by
  have hbefore : Sound limits ((empty limits).run draw before) := sound_empty.run draw before
  cases hread : Criterion.ofJson limits document with
  | error rejection =>
    rw [answer_register_error (by rw [hbefore.limits_eq, hread])] at hanswer
    cases hanswer
  | ok criterion =>
    rw [answer_register_ok (by rw [hbefore.limits_eq, hread])] at hanswer
    cases hanswer
    refine ⟨⟨((empty limits).run draw before).registered, name, document, criterion⟩, ?_, rfl, rfl,
      rfl⟩
    rw [find?_eq_some_iff hdistinct (sound_empty.run draw requests)]
    exact ⟨(mem_run_iff hdistinct).2 ⟨before, after, hrequests, hread, rfl, hafter⟩, rfl⟩

theorem find?_of_removed {before after : List (Request ι)}
    (hdistinct : DistinctDraws draw ((empty limits).run draw requests))
    (hrequests : requests = before ++ .remove id :: after)
    (hfound : ((empty limits).run draw before).find? draw id = some segment) :
    ((empty limits).run draw requests).find? draw id = none := by
  have hbefore : Sound limits ((empty limits).run draw before) := sound_empty.run draw before
  have hrun : (empty limits).run draw requests =
      (((empty limits).run draw before).answer draw (.remove id)).2.run draw after := by
    rw [hrequests, run_append, run_cons]
  have hearly : DistinctDraws draw ((empty limits).run draw before) := by
    rw [hrun] at hdistinct
    exact hdistinct.of_run.of_answer
  obtain ⟨hmem, rfl⟩ := (find?_eq_some_iff hearly hbefore).1 hfound
  have hretired : Retired segment.number ((empty limits).run draw requests) := by
    rw [hrun, answer_remove_of_mem hearly hbefore hmem]
    exact (retired_remove hbefore hmem).run draw after
  exact hretired.find?_eq_none hdistinct (sound_empty.run draw requests)

/-- If the ids drawn during a run are distinct, the registry keeps what it owes its client. -/
theorem faithful_of_distinct (draw : ℕ → ι) (limits : Limits) (requests : List (Request ι))
    (hdistinct : DistinctDraws draw ((empty limits).run draw requests)) :
    Faithful draw limits requests ((empty limits).run draw requests) := by
  have h : Sound limits ((empty limits).run draw requests) := sound_empty.run draw requests
  constructor
  case segments_iff => exact fun segment => mem_run_iff hdistinct
  case ids_nodup => exact nodup_ids hdistinct h
  case reread => exact h.read
  case register_ok =>
    intro name document criterion hread
    rw [answer_register_ok (by rw [h.limits_eq, hread])]
  case register_error =>
    intro name document rejection hread
    exact answer_register_error (by rw [h.limits_eq, hread])
  case get_keeps => exact fun id => rfl
  case evaluate_keeps => exact fun subject now => rfl
  case get_iff =>
    intro id segment
    rw [← find?_eq_some_iff hdistinct h, answer, Answer.segment.injEq]
  case get_registered =>
    intro before name document after id hrequests hanswer hafter
    obtain ⟨segment, hfound, hsegment⟩ := find?_of_registered hdistinct hrequests hanswer hafter
    exact ⟨segment, congrArg Answer.segment hfound, hsegment⟩
  case remove_unknown => exact fun id hnone => answer_remove_of_unknown hdistinct h hnone
  case remove_known =>
    intro segment hmem
    rw [answer_remove_of_mem hdistinct h hmem]
    refine ⟨rfl, fun other => ?_⟩
    rw [mem_remove_iff]
    refine and_congr_right fun hother => not_congr ⟨h.eq_of_number hother hmem, ?_⟩
    exact congrArg Segment.number
  case removed_once =>
    intro before id after segment hrequests hanswer
    have hnone := find?_of_removed hdistinct hrequests (Answer.segment.inj hanswer)
    exact ⟨answer_remove_of_unknown hdistinct h ((find?_eq_none_iff hdistinct h).1 hnone),
      congrArg Answer.segment hnone⟩
  case members =>
    intro subject now
    exact ⟨_, rfl, nodup_idsOf hdistinct h subject now, fun id => mem_idsOf_iff⟩
  case independent =>
    intro otherDraw otherRequests hotherDistinct segment hmem other hother hdocument subject now
    have hotherSound : Sound limits ((empty limits).run otherDraw otherRequests) :=
      sound_empty.run otherDraw otherRequests
    have hread := h.read segment hmem
    rw [hdocument, hotherSound.read other hother] at hread
    rw [number_mem_idsOf_iff hdistinct h hmem,
      number_mem_idsOf_iff hotherDistinct hotherSound hother, Except.ok.inj hread]

/-- A document that is refused draws no id: among three registrations there are two draws, which are
distinct although ids come back after four. -/
theorem faithful_two_registered :
    let requests : List (Request (Fin 4)) :=
      [.register "everyone" (.object []), .register "nothing" .null, .remove 0,
        .register "absent" (.object [("presence", .bool false)])]
    DistinctDraws (Fin.ofNat 4) ((empty ⟨4, 8⟩).run (Fin.ofNat 4) requests) ∧
      Faithful (Fin.ofNat 4) ⟨4, 8⟩ requests ((empty ⟨4, 8⟩).run (Fin.ofNat 4) requests) := by
  intro requests
  have hdistinct : DistinctDraws (Fin.ofNat 4) ((empty ⟨4, 8⟩).run (Fin.ofNat 4) requests) := by
    have hregistered : ((empty ⟨4, 8⟩).run (Fin.ofNat 4) requests).registered = 2 := by
      decide
    rw [DistinctDraws, hregistered]
    intro first hfirst second hsecond heq
    have h := congrArg Fin.val heq
    simp only [Set.mem_Iio, Fin.val_ofNat] at *
    omega
  exact ⟨hdistinct, faithful_of_distinct (Fin.ofNat 4) ⟨4, 8⟩ requests hdistinct⟩

end Registry

end Audience
