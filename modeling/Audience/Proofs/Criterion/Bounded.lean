import Audience.Proofs.Criterion.Below
import Audience.Proofs.Verdict.Calls

/-!
# The limits bound every accepted tree

Depth is counted in two ways: the steps that lead to the place of a node, which the depth limit bounds,
and the nodes above it. A level adds at most two nodes to a way down, the conjunction of its members
and what stands under a keyword, and at most two links to a source, one named beside `presence` and
that of a comparison. As long as every step of the recursion keeps to that, the bounds are linear in
the limit.

* **`Criterion.Part`**: what a level builds for a member, in terms of what was read below it.
* **`Criterion.Bounded`**, **`Criterion.bounded_level`**: the invariant, and that a level keeps it.
* **`Criterion.bounded_of_ofJson`**: nodes, depths and sources of accepted trees, and the calls that
  evaluation needs.
-/

namespace Audience

/-! ### The links that a path adds -/

namespace Source

theorem length_of_below {base about : Source} {segments : List String}
    (h : Grammar.Below base segments about) : about.length ≤ base.length + 1 := by
  cases h with
  | self => exact Nat.le_succ _
  | lastActivity _ => exact Nat.le_refl _
  | field _ _ _ => exact Nat.le_refl _

/-- A dotted path adds one link to the source it starts from; a scope has no more links than that. -/
theorem length_of_denotes {source about : Source} {path : String}
    (h : Grammar.Denotes source path about) : about.length ≤ source.length + 1 := by
  have hpos := source.length_pos
  cases h with
  | installation _ _ h =>
    have : about.length ≤ 2 := length_of_below h
    omega
  | user _ _ h =>
    have : about.length ≤ 2 := length_of_below h
    omega
  | here _ _ _ h => exact length_of_below h

end Source

namespace Criterion

/-- The sources at a node: the one in force at its place, and the one that it asks about. -/
def sources : PlacedCriterion → List Source
  | matchAll mark | and mark _ | or mark _ | not mark _ | someEvent mark _ => [mark.source]
  | test mark source _ | presence mark source _ _ _ | subscription mark source _ =>
      [mark.source, source]

theorem mem_sources_of_asked {node : PlacedCriterion} {source : Source}
    (h : source ∈ node.asked?) : source ∈ node.sources := by
  cases node <;> simp_all [asked?, sources]

variable {below : Reader} {place child : Place} {members : List (String × Json)}
variable {json value : Json} {key : String} {source : Source} {criterion : PlacedCriterion}

/-! ### What a level builds for a member -/

/-- Read below a level, under a source with at most two links more than the one in force. -/
def ReadWithinTwo (below : Reader) (place : Place) (criterion : PlacedCriterion) : Prop :=
  ∃ source, source.length ≤ place.source.length + 2 ∧ ReadBelow below place source criterion

/-- What a level builds for one of its members: a tree that was read below it, or a node further down
whose children were. -/
inductive Part (below : Reader) (place : Place) : PlacedCriterion → Prop
  | read {criterion : PlacedCriterion} (h : ReadWithinTwo below place criterion) :
      Part below place criterion
  | node {criterion : PlacedCriterion} (hdeeper : place.Deeper criterion.mark)
      (hsources : ∀ source ∈ criterion.sources, source.length ≤ place.source.length + 1)
      (hchildren : ∀ inner ∈ criterion.children, ReadWithinTwo below place inner) :
      Part below place criterion

theorem ReadBelow.withinTwo (h : ReadBelow below child source criterion)
    (hdeeper : place.Deeper child) (hlength : source.length ≤ place.source.length + 2) :
    ReadWithinTwo below place criterion :=
  ⟨source, hlength, h.of_deeper hdeeper⟩

theorem length_of_besideSource (h : besideSource place members = .ok source) :
    source.length ≤ place.source.length + 1 := by
  rw [besideSource] at h
  split at h
  · cases h
    exact Nat.le_succ _
  · obtain ⟨sub, hsub, h⟩ := bind_eq_ok_iff.1 h
    obtain ⟨path, _, h⟩ := bind_eq_ok_iff.1 h
    have hdenotes := sourceOfPath_eq_ok_iff.1 h
    rw [source_of_key hsub] at hdenotes
    exact Source.length_of_denotes hdenotes

theorem part_of_presenceBeside {present : Bool} (hdeeper : place.Deeper child)
    (hchild : child.source = place.source)
    (h : presenceBeside below place child present members = .ok criterion) :
    Part below place criterion := by
  rw [presenceBeside, bind_eq_ok_iff] at h
  obtain ⟨source, hsource, h⟩ := h
  obtain ⟨since, hsince, h⟩ := bind_eq_ok_iff.1 h
  obtain ⟨elapsed, helapsed, h⟩ := bind_eq_ok_iff.1 h
  rw [pure_eq_ok_iff] at h
  subst h
  have hlength := length_of_besideSource hsource
  refine .node hdeeper ?_ ?_
  · simp only [sources, List.mem_cons, List.not_mem_nil, or_false]
    rintro about (rfl | rfl)
    · rw [hchild]
      exact Nat.le_succ _
    · exact hlength
  · -- the comparisons stand beside `presence`, one step below the place of the object
    simp only [children, List.mem_append, Option.mem_toList]
    rintro inner (hinner | hinner)
    · exact ⟨.sinceDate source, Nat.succ_le_succ hlength, readBelow_of_under hsince inner hinner⟩
    · exact ⟨.elapsedTime source, Nat.succ_le_succ hlength,
        readBelow_of_under helapsed inner hinner⟩

theorem part_of_presenceWithin (hdeeper : place.Deeper child)
    (hchild : child.source = place.source)
    (h : presenceWithin below child members = .ok criterion) : Part below place criterion := by
  rw [presenceWithin, bind_eq_ok_iff] at h
  obtain ⟨parts, hparts, h⟩ := h
  have hread : parts.ReadBelow below child child.source :=
    readBelow_of_presenceMembers PresenceParts.readBelow_nothing hparts
  have hlength : child.source.length + 1 ≤ place.source.length + 2 := by
    rw [hchild]
    omega
  split at h
  · rw [pure_eq_ok_iff] at h
    subst h
    refine .node hdeeper ?_ ?_
    · simp [sources, hchild]
    · simp only [children, List.mem_append, Option.mem_toList]
      rintro inner (hinner | hinner)
      · exact (hread.sinceDate inner hinner).withinTwo hdeeper hlength
      · exact (hread.elapsedTime inner hinner).withinTwo hdeeper hlength
  · exact absurd h (reject_ne_ok _ _ _)

theorem part_of_geoOf (hdeeper : place.Deeper child) (hchild : child.source = place.source)
    (h : geoOf below child value = .ok criterion) : Part below place criterion := by
  unfold geoOf at h
  split at h
  · obtain ⟨parts, hparts, h⟩ := bind_eq_ok_iff.1 h
    rw [pure_eq_ok_iff] at h
    subst h
    have hread : ∀ part ∈ parts, ReadWithinTwo below place part := by
      have hlength : child.source.length + 1 ≤ place.source.length + 2 := by
        rw [hchild]
        omega
      intro part hmem
      obtain hread | hread := readBelow_of_geoMembers hparts part hmem
      · exact hread.withinTwo hdeeper hlength
      · exact hread.withinTwo hdeeper hlength
    match parts with
    | [part] => exact .read (hread part List.mem_cons_self)
    | [] | _ :: _ :: _ => exact .node hdeeper (by simp [allOf, sources, hchild]) hread
  · exact absurd h (reject_ne_ok _ _ _)

/-- A test has no children. -/
theorem part_of_test {α : Type} {read : Except Rejection α} {question : α → Test}
    (hdeeper : place.Deeper child) (hchild : child.source = place.source)
    (h : (do needValue place child key; return test child place.source (question (← read))) =
      .ok criterion) : Part below place criterion := by
  obtain ⟨_, _, h⟩ := bind_eq_ok_iff.1 h
  obtain ⟨a, _, h⟩ := bind_eq_ok_iff.1 h
  rw [pure_eq_ok_iff] at h
  subst h
  exact .node hdeeper (by simp [sources, hchild]) (by simp [children])

theorem part_of_keyworded {keyword : Keyword} (hdeeper : place.Deeper child)
    (hchild : child.source = place.source)
    (h : keyworded below members place child key keyword value = .ok criterion) :
    Part below place criterion := by
  have hpos := place.source.length_pos
  have hinner : ∀ {source c}, source.length ≤ place.source.length + 2 →
      below value (child.withSource source) = .ok c → ReadWithinTwo below place c := by
    intro source c hlength h
    exact ⟨source, hlength, value, _, hdeeper.withSource source, rfl, h⟩
  have hhere : ∀ {c}, below value child = .ok c → ReadWithinTwo below place c := by
    intro c h
    exact ⟨child.source, by rw [hchild]; omega, value, child, hdeeper, rfl, h⟩
  have hmark : child.source.length ≤ place.source.length + 1 := by
    rw [hchild]
    omega
  have hlist : ∀ {parts}, criteriaList below child key value = .ok parts →
      ∀ part ∈ parts, ReadWithinTwo below place part := by
    intro parts hparts part hmem
    exact (readBelow_of_criteriaList hparts part hmem).withinTwo hdeeper (by omega)
  cases keyword with
  | field path =>
    obtain ⟨segments, _, h⟩ := bind_eq_ok_iff.1 h
    obtain ⟨source, hsource, h⟩ := bind_eq_ok_iff.1 h
    obtain ⟨_, rfl⟩ := fieldBelow_eq_ok_iff.1 hsource
    exact .read (hinner (Nat.le_succ _) h)
  | order | equal | any | all | startsWith | inside => exact part_of_test hdeeper hchild h
  | and | or =>
    obtain ⟨parts, hparts, h⟩ := bind_eq_ok_iff.1 h
    cases h
    exact .node hdeeper (by simpa [sources] using hmark) (hlist hparts)
  | not =>
    obtain ⟨inner, hread, h⟩ := bind_eq_ok_iff.1 h
    cases h
    refine .node hdeeper (by simpa [sources] using hmark) ?_
    simpa [children] using hhere hread
  | installation | user =>
    obtain ⟨_, _, h⟩ := bind_eq_ok_iff.1 h
    exact .read (hinner (by simp only [Source.length]; omega) h)
  | event =>
    obtain ⟨_, _, h⟩ := bind_eq_ok_iff.1 h
    obtain ⟨inner, hread, h⟩ := bind_eq_ok_iff.1 h
    cases h
    have hread' : ReadWithinTwo below place inner :=
      hinner (by simp only [Source.length]; omega) hread
    refine .node hdeeper (by simpa [sources] using hmark) ?_
    simpa [children] using hread'
  | lastActivity =>
    obtain ⟨_, _, h⟩ := bind_eq_ok_iff.1 h
    exact .read (hinner (Nat.le_succ _) h)
  | geo =>
    obtain ⟨_, _, h⟩ := bind_eq_ok_iff.1 h
    exact part_of_geoOf hdeeper hchild h
  | subscription =>
    obtain ⟨_, _, h⟩ := bind_eq_ok_iff.1 h
    obtain ⟨status, _, h⟩ := bind_eq_ok_iff.1 h
    cases h
    exact .node hdeeper (by simp [sources, hchild]) (by simp [children])
  | presence =>
    cases value with
    | bool present => exact part_of_presenceBeside hdeeper hchild h
    | object inner => exact part_of_presenceWithin hdeeper hchild h
    | _ => exact absurd h (reject_ne_ok _ _ _)

/-! ### The invariant of a reading -/

/-- A place within the depth limit, under a source with at most two links for each step to it and one
for the scope. -/
structure Spare (place : Place) : Prop where
  depth_le : place.depth ≤ place.limits.maxDepth
  length_le : place.source.length ≤ 2 * place.depth + 1

/-- The node is at a place within the depth limit, and its sources have at most two links for each
step to it and one for the scope. -/
structure NodeBounded (limit : Nat) (node : PlacedCriterion) : Prop where
  depth_le : node.mark.depth ≤ limit
  length_le : ∀ source ∈ node.sources, source.length ≤ 2 * node.mark.depth + 1

/-- The tree has at most two nodes on the way down for each step that may lead on from the place, and
one more. -/
structure Bounded (place : Place) (criterion : PlacedCriterion) : Prop where
  depth_le : criterion.depth ≤ 2 * (place.limits.maxDepth - place.depth) + 1
  nodes : ∀ node ∈ criterion.nodes, NodeBounded place.limits.maxDepth node

/-- A reader that gives bounded trees. -/
def Bounds (below : Reader) : Prop :=
  ∀ json place criterion, Spare place → below json place = .ok criterion → Bounded place criterion

/-- What was read below has room for one step less. -/
structure BoundedBelow (place : Place) (criterion : PlacedCriterion) : Prop where
  depth_lt : place.depth < place.limits.maxDepth
  depth_le : criterion.depth + 1 ≤ 2 * (place.limits.maxDepth - place.depth)
  nodes : ∀ node ∈ criterion.nodes, NodeBounded place.limits.maxDepth node

theorem boundedBelow_of_readWithinTwo (hbelow : Bounds below) (hplace : Spare place)
    (h : ReadWithinTwo below place criterion) : BoundedBelow place criterion := by
  obtain ⟨source, hlength, json, deeper, hdeeper, rfl, hread⟩ := h
  have hlt := hdeeper.depth_lt
  have hle := hdeeper.depth_le
  have hplaceLength := hplace.length_le
  have hspare : Spare deeper := by
    refine ⟨?_, ?_⟩
    · rw [hdeeper.limits_eq]
      exact hle
    · omega
  obtain ⟨hdepth, hnodes⟩ := hbelow json deeper criterion hspare hread
  rw [hdeeper.limits_eq] at hdepth hnodes
  exact ⟨by omega, by omega, hnodes⟩

/-- A part of an object has at most one node less on its way down than the object may have. -/
theorem Part.bounded (hbelow : Bounds below) (hplace : Spare place)
    (h : Part below place criterion) :
    criterion.depth ≤ 2 * (place.limits.maxDepth - place.depth) ∧
      ∀ node ∈ criterion.nodes, NodeBounded place.limits.maxDepth node := by
  cases h with
  | read h =>
    have hbounded := boundedBelow_of_readWithinTwo hbelow hplace h
    exact ⟨Nat.le_of_succ_le hbounded.depth_le, hbounded.nodes⟩
  | node hdeeper hsources hchildren =>
    have hchild : ∀ inner ∈ criterion.children, BoundedBelow place inner :=
      fun inner hmem => boundedBelow_of_readWithinTwo hbelow hplace (hchildren inner hmem)
    have hlt := hdeeper.depth_lt
    have hle := hdeeper.depth_le
    have hlength := hplace.length_le
    refine ⟨?_, ?_⟩
    · obtain ⟨k, hk⟩ : ∃ k, 2 * (place.limits.maxDepth - place.depth) = k + 1 :=
        ⟨2 * (place.limits.maxDepth - place.depth) - 1, by omega⟩
      rw [hk, depth_le_succ_iff]
      intro inner hmem
      have := (hchild inner hmem).depth_le
      omega
    · intro node hmem
      rw [mem_nodes_iff] at hmem
      obtain rfl | ⟨inner, hinner, hmem⟩ := hmem
      · refine ⟨hle, fun source hsource => ?_⟩
        have := hsources source hsource
        omega
      · exact (hchild inner hinner).nodes node hmem

theorem nodeBounded_at (hplace : Spare place) {node : PlacedCriterion} (hmark : node.mark = place)
    (hsources : node.sources = [place.source]) : NodeBounded place.limits.maxDepth node := by
  refine ⟨?_, ?_⟩
  · rw [hmark]
    exact hplace.depth_le
  · intro source hmem
    rw [hsources, List.mem_singleton] at hmem
    rw [hmem, hmark]
    exact hplace.length_le

theorem bounded_allOf {parts : List PlacedCriterion} (hplace : Spare place)
    (hparts : ∀ part ∈ parts, part.depth ≤ 2 * (place.limits.maxDepth - place.depth) ∧
      ∀ node ∈ part.nodes, NodeBounded place.limits.maxDepth node) :
    Bounded place (allOf place parts) := by
  have hand : Bounded place (.and place parts) := by
    refine ⟨depth_le_succ_iff.2 fun part hmem => (hparts part hmem).1, ?_⟩
    intro node hmem
    rw [mem_nodes_iff] at hmem
    obtain rfl | ⟨part, hpart, hmem⟩ := hmem
    · exact nodeBounded_at hplace rfl rfl
    · exact (hparts part hpart).2 node hmem
  match parts with
  | [part] =>
    -- a single part stands for the object, with one node less
    obtain ⟨hdepth, hnodes⟩ := hparts part List.mem_cons_self
    exact ⟨Nat.le_succ_of_le hdepth, hnodes⟩
  | [] | _ :: _ :: _ => exact hand

theorem bounded_level (hbelow : Bounds below) : Bounds (level below) := by
  intro json place criterion hplace h
  unfold level at h
  split at h
  · cases h
    refine ⟨Nat.le_add_left _ _, ?_⟩
    intro node hmem
    rw [nodes, List.mem_singleton] at hmem
    subst hmem
    exact nodeBounded_at hplace rfl rfl
  · obtain ⟨results, hresults, h⟩ := bind_eq_ok_iff.1 h
    rw [pure_eq_ok_iff] at h
    subst h
    refine bounded_allOf hplace fun part hmem => ?_
    obtain ⟨_, _, _, _, hdeeper, hchild, hread⟩ := exists_of_mem_parts hresults part hmem
    exact (part_of_keyworded hdeeper hchild hread).bounded hbelow hplace
  · exact absurd h (reject_ne_ok _ _ _)

theorem bounded_readWithin (levels : Nat) : Bounds (readWithin levels) := by
  induction levels with
  | zero => exact bounded_level fun _ _ _ _ h => absurd h (reject_ne_ok _ _ _)
  | succ levels ih => exact bounded_level ih

/-! ### Accepted trees -/

/-- An accepted tree has no more nodes than the limits allow, and no place deeper than they allow. On
a way down there are at most twice as many nodes as the depth limit and one more, and so many links
in each source. So many calls within each other are enough for evaluation and for resolution. -/
theorem bounded_of_ofJson (limits : Limits) (json : Json) (criterion : PlacedCriterion)
    (h : ofJson limits json = .ok criterion) :
    criterion.nodeCount ≤ limits.maxNodes ∧
      criterion.depth ≤ 2 * limits.maxDepth + 1 ∧
      (∀ node ∈ criterion.nodes, node.mark.depth ≤ limits.maxDepth ∧
        ∀ source ∈ node.sources, source.length ≤ 2 * limits.maxDepth + 1) ∧
      ∀ situation : Situation,
        holdsIn (2 * limits.maxDepth + 1) (2 * limits.maxDepth + 1) situation criterion =
          some (criterion.holds situation) := by
  rw [ofJson, bind_eq_ok_iff] at h
  obtain ⟨accepted, hread, h⟩ := h
  have hspare : Spare (.root limits) := ⟨Nat.zero_le _, Nat.le_refl _⟩
  obtain ⟨hdepth, hnodes⟩ := bounded_readWithin _ json (.root limits) accepted hspare hread
  split at h
  · exact absurd h (reject_ne_ok _ _ _)
  · rename_i hcount
    rw [pure_eq_ok_iff] at h
    subst h
    have hsources : ∀ node ∈ accepted.nodes, ∀ source ∈ node.sources,
        source.length ≤ 2 * limits.maxDepth + 1 := by
      intro node hmem source hsource
      obtain ⟨hmark, hlength⟩ := hnodes node hmem
      have := hlength source hsource
      have : node.mark.depth ≤ limits.maxDepth := hmark
      omega
    refine ⟨Nat.le_of_not_lt hcount, hdepth, ?_, ?_⟩
    · intro node hmem
      exact ⟨(hnodes node hmem).depth_le, hsources node hmem⟩
    · intro situation
      refine holdsIn_eq situation accepted hdepth fun node hmem source hasked => ?_
      exact hsources node hmem source (mem_sources_of_asked hasked)

/-- Two negations, each beside another member: as many nodes on the way down as a depth limit of two
allows. -/
theorem bounded_negations : ∃ criterion,
    ofJson ⟨2, 7⟩ (.object [("not", .object [("not", .object []), ("or", .array [])]),
      ("or", .array [])]) = .ok criterion ∧
      criterion.nodeCount ≤ 7 ∧ criterion.depth ≤ 5 ∧
      (∀ node ∈ criterion.nodes, node.mark.depth ≤ 2 ∧
        ∀ source ∈ node.sources, source.length ≤ 5) ∧
      ∀ situation : Situation,
        holdsIn 5 5 situation criterion = some (criterion.holds situation) := by
  have haccepted : Accepts (ofJson ⟨2, 7⟩ (.object [("not", .object [("not", .object []),
      ("or", .array [])]), ("or", .array [])])) := accepts_of_isOk (by decide +kernel)
  obtain ⟨criterion, h⟩ := haccepted
  exact ⟨criterion, h, bounded_of_ofJson ⟨2, 7⟩ _ criterion h⟩

end Criterion

end Audience
