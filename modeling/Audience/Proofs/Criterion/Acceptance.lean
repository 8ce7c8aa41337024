import Audience.Proofs.Criterion.Outcome
import Audience.Proofs.Literal.Acceptance

/-!
# Documents are accepted as the grammar says

The rules of one level are gone through against a reader that accepts, of all lower values, those that
are criteria. The induction is on a number of levels that is enough for the height of the document.

* **`Criterion.Recognizes`**: a reader that is right about all values lower than a bound.
* **`Criterion.accepts_keyworded_iff`**, **`Criterion.accepts_level_iff`**: what stands under a
  keyword, and one level, given such a reader.
* **`Criterion.accepted_iff_isCriterion`**: a document is accepted if and only if it is a criterion
  under the source in force.
-/

namespace Audience.Criterion

variable {below : Reader} {place child : Place} {members inner : List (String × Json)}
variable {value : Json} {key : String} {source : Source} {bound : Nat}

/-- A reader that accepts, of all values lower than a bound, the criteria. -/
def Recognizes (below : Reader) (bound : Nat) : Prop :=
  ∀ (json : Json) (place : Place), json.height < bound → place.HasRoom json →
    (Accepts (below json place) ↔ Grammar.IsCriterion place.source json)

theorem Recognizes.mono {lower : Nat} (h : Recognizes below bound) (hle : lower ≤ bound) :
    Recognizes below lower := by
  intro json place hlt hroom
  exact h json place (Nat.lt_of_lt_of_le hlt hle) hroom

/-! ### Lists -/

theorem accepts_items_iff {α : Type} {read : Json → Place → Except Rejection α}
    {p : Json → Prop} {values : List Json} (hroom : place.HasRoom (.array values))
    (hread : ∀ item ∈ values, ∀ child : Place, child.source = place.source →
      child.HasRoom item → (Accepts (read item child) ↔ p item)) :
    ∀ (rest : List Json) (start : Nat), (∀ item ∈ rest, item ∈ values) →
      (Accepts (items read place start rest) ↔ ∀ item ∈ rest, p item) := by
  intro rest
  induction rest with
  | nil =>
    intro start _
    exact iff_of_true (accepts_ok _) (by simp)
  | cons item rest ih =>
    intro start hrest
    have hmem : item ∈ values := hrest item List.mem_cons_self
    obtain ⟨child, hchild, hsource, hinner⟩ := hroom.index hmem start
    have htail := ih (start + 1) fun other h => hrest other (List.mem_cons_of_mem _ h)
    rw [items, accepts_bind_of_ok hchild, accepts_bind_iff_and fun _ _ => accepts_bind_pure_iff,
      hread item hmem child hsource hinner, htail, List.forall_mem_cons]

theorem accepts_criteriaList_iff (hrec : Recognizes below value.height)
    (hroom : child.HasRoom value) :
    Accepts (criteriaList below child key value) ↔
      ∃ items, value = .array items ∧ ∀ item ∈ items, Grammar.IsCriterion child.source item := by
  unfold criteriaList
  split
  · rename_i values
    have hread : ∀ item ∈ values, ∀ deeper : Place, deeper.source = child.source →
        deeper.HasRoom item →
        (Accepts (below item deeper) ↔ Grammar.IsCriterion child.source item) := by
      intro item hmem deeper hsource hinner
      rw [hrec item deeper (Json.height_lt_of_item hmem) hinner, hsource]
    rw [accepts_items_iff hroom hread values 0 fun item h => h]
    simp
  · rename_i hne
    refine iff_of_false (not_accepts_reject _ _) ?_
    intro h
    rcases h with ⟨items, rfl, _⟩
    exact hne items rfl

theorem accepts_literalList_iff (hroom : child.HasRoom value) :
    Accepts (literalList child key value) ↔
      ∃ items, value = .array items ∧ ∀ item ∈ items, Grammar.IsLiteral child.source item := by
  unfold literalList
  split
  · rename_i values
    have hread : ∀ item ∈ values, ∀ deeper : Place, deeper.source = child.source →
        deeper.HasRoom item →
        (Accepts (Literal.ofJson deeper item) ↔ Grammar.IsLiteral child.source item) := by
      intro item _ deeper hsource hinner
      rw [Literal.accepts_ofJson_iff hinner, hsource]
    rw [accepts_items_iff hroom hread values 0 fun item h => h]
    simp
  · rename_i hne
    refine iff_of_false (not_accepts_reject _ _) ?_
    intro h
    rcases h with ⟨items, rfl, _⟩
    exact hne items rfl

/-! ### Members below `geo` -/

/-- What may stand under a key below `geo`. -/
def IsGeoEntry (scope : Source) (key : String) (value : Json) : Prop :=
  (key = "location" ∧ Grammar.IsCriterion (.location scope) value) ∨
    (key = "date" ∧ Grammar.IsCriterion (.locationDate scope) value)

theorem accepts_geoMembers_iff (hrec : Recognizes below (Json.object inner).height)
    (hroom : child.HasRoom (.object inner)) :
    ∀ rest : List (String × Json), (∀ entry ∈ rest, entry ∈ inner) →
      (Accepts (geoMembers below child rest) ↔
        ∀ entry ∈ rest, IsGeoEntry child.source entry.1 entry.2) := by
  intro rest
  induction rest with
  | nil =>
    intro _
    exact iff_of_true (accepts_ok _) (by simp)
  | cons entry rest ih =>
    intro hrest
    obtain ⟨key, value⟩ := entry
    have hmem : (key, value) ∈ inner := hrest _ List.mem_cons_self
    obtain ⟨sub, hsub, _, hinner⟩ := hroom.key hmem
    have htail := ih fun other h => hrest other (List.mem_cons_of_mem _ h)
    have hfirst : Accepts (geoSource sub child.source key >>= fun source =>
        below value (sub.withSource source)) ↔ IsGeoEntry child.source key value := by
      rw [accepts_bind_iff]
      simp only [geoSource_eq_ok_iff, IsGeoEntry,
        hrec value _ (Json.height_lt_of_member hmem) (hinner.withSource _)]
      constructor
      · intro h
        rcases h with ⟨source, ⟨hkey, rfl⟩ | ⟨hkey, rfl⟩, h⟩
        · exact .inl ⟨hkey, h⟩
        · exact .inr ⟨hkey, h⟩
      · intro h
        rcases h with ⟨hkey, h⟩ | ⟨hkey, h⟩
        · exact ⟨_, .inl ⟨hkey, rfl⟩, h⟩
        · exact ⟨_, .inr ⟨hkey, rfl⟩, h⟩
    rw [geoMembers, accepts_bind_of_ok hsub, List.forall_mem_cons, ← hfirst, ← htail]
    rw [accepts_bind_iff, accepts_bind_iff]
    simp only [accepts_bind_iff_and fun _ _ => accepts_bind_pure_iff]
    constructor
    · intro h
      obtain ⟨source, hsource, hbelow, hall⟩ := h
      exact ⟨⟨source, hsource, hbelow⟩, hall⟩
    · intro h
      obtain ⟨⟨source, hsource, hbelow⟩, hall⟩ := h
      exact ⟨source, hsource, hbelow, hall⟩

theorem accepts_geoOf_iff (hrec : Recognizes below value.height) (hroom : child.HasRoom value) :
    Accepts (geoOf below child value) ↔
      ∃ inner, value = .object inner ∧ inner ≠ [] ∧
        ∀ entry ∈ inner, IsGeoEntry child.source entry.1 entry.2 := by
  unfold geoOf
  split
  · rename_i first rest
    rw [accepts_bind_pure_iff, accepts_geoMembers_iff hrec hroom _ fun entry h => h]
    constructor
    · intro h
      exact ⟨_, rfl, List.cons_ne_nil _ _, h⟩
    · intro h
      obtain ⟨_, heq, _, h⟩ := h
      cases heq
      exact h
  · rename_i hne
    refine iff_of_false (not_accepts_reject _ _) ?_
    intro h
    rcases h with ⟨inner, rfl, hinner, _⟩
    cases inner with
    | nil => exact hinner rfl
    | cons first rest => exact hne first rest rfl

/-! ### A boolean `presence` -/

theorem accepts_under_iff (hrec : Recognizes below (Json.object members).height)
    (hroom : place.HasRoom (.object members)) :
    Accepts (under below place key source (Json.find? members key)) ↔
      ∀ value, Json.find? members key = some value → Grammar.IsCriterion source value := by
  unfold under
  split
  · rename_i hfind
    rw [hfind]
    refine iff_of_true (accepts_ok _) ?_
    intro value h
    cases h
  · rename_i value hfind
    obtain ⟨sub, hsub, _, hinner⟩ := hroom.key (Json.mem_of_find? hfind)
    have hlt := Json.height_lt_of_member (Json.mem_of_find? hfind)
    rw [hfind, accepts_bind_of_ok hsub, accepts_bind_pure_iff,
      hrec value _ hlt (hinner.withSource source)]
    constructor
    · intro h other heq
      cases heq
      exact h
    · intro h
      exact h value rfl

theorem besideSource_eq_ok_iff (hroom : place.HasRoom (.object members)) :
    besideSource place members = .ok source ↔ Grammar.IsAbout place.source members source := by
  rw [besideSource]
  split
  · rename_i hfind
    rw [Except.ok.injEq]
    constructor
    · intro heq
      subst heq
      exact .here hfind
    · intro h
      cases h with
      | here => rfl
      | path h => rw [hfind] at h; cases h
  · rename_i value hfind
    obtain ⟨sub, hsub, hsource, _⟩ := hroom.key (Json.mem_of_find? hfind)
    simp only [hsub, bind_eq_ok_iff, stringOf_eq_ok_iff, sourceOfPath_eq_ok_iff]
    constructor
    · intro h
      rcases h with ⟨_, heq, text, rfl, h⟩
      cases heq
      rw [hsource] at h
      exact .path hfind h
    · intro h
      cases h with
      | here h => rw [hfind] at h; cases h
      | path h hdenotes =>
        rw [hfind] at h
        cases h
        refine ⟨sub, rfl, _, rfl, ?_⟩
        rw [hsource]
        exact hdenotes

theorem accepts_presenceBeside_iff {present : Bool}
    (hrec : Recognizes below (Json.object members).height)
    (hroom : place.HasRoom (.object members)) :
    Accepts (presenceBeside below place child present members) ↔
      Grammar.IsMember place.source members .presence (.bool present) := by
  rw [presenceBeside, accepts_bind_iff]
  simp only [besideSource_eq_ok_iff hroom,
    accepts_bind_iff_and fun _ _ => accepts_bind_iff_and fun _ _ => iff_of_true (accepts_pure _) trivial,
    accepts_under_iff hrec hroom]
  constructor
  · intro h
    obtain ⟨about, habout, hsince, helapsed, _⟩ := h
    exact .presence habout hsince helapsed
  · intro h
    cases h with
    | question _ h => cases h
    | presence habout hsince helapsed => exact ⟨_, habout, hsince, helapsed, trivial⟩

/-! ### Members below `presence` -/

/-- What may stand under a key below `presence`. -/
def IsPresenceEntry (about : Source) (key : String) (value : Json) : Prop :=
  (key = "present" ∧ ∃ present, value = .bool present) ∨
    (key = "sinceDate" ∧ Grammar.IsCriterion (.sinceDate about) value) ∨
      (key = "elapsedTime" ∧ Grammar.IsCriterion (.elapsedTime about) value)

theorem accepts_presenceMember_iff {parts : PresenceParts}
    (hrec : Recognizes below (Json.object inner).height) (hroom : child.HasRoom (.object inner))
    (hmem : (key, value) ∈ inner) :
    Accepts (presenceMember below child parts key value) ↔
      IsPresenceEntry child.source key value := by
  obtain ⟨sub, hsub, _, hinner⟩ := hroom.key hmem
  have hlt := Json.height_lt_of_member hmem
  rw [presenceMember, accepts_bind_of_ok hsub, IsPresenceEntry]
  by_cases hpresent : key = "present"
  · subst hpresent
    rw [if_pos rfl]
    cases value <;> simp
  rw [if_neg hpresent]
  by_cases hsince : key = "sinceDate"
  · subst hsince
    rw [if_pos rfl, accepts_bind_pure_iff, hrec value _ hlt (hinner.withSource _)]
    simp [Place.withSource]
  rw [if_neg hsince]
  by_cases helapsed : key = "elapsedTime"
  · subst helapsed
    rw [if_pos rfl, accepts_bind_pure_iff, hrec value _ hlt (hinner.withSource _)]
    simp [Place.withSource]
  · rw [if_neg helapsed]
    simp [hpresent, hsince, helapsed]

/-- Whether `present` has been read. -/
theorem present_of_presenceMember {parts next : PresenceParts}
    (h : presenceMember below child parts key value = .ok next) :
    next.present.isSome = true ↔ parts.present.isSome = true ∨ key = "present" := by
  rw [presenceMember, bind_eq_ok_iff] at h
  obtain ⟨sub, _, h⟩ := h
  split at h
  · rename_i hkey
    split at h
    · rw [pure_eq_ok_iff] at h
      simp [← h, hkey]
    · exact absurd h (reject_ne_ok _ _ _)
  split at h
  · rename_i hkey _
    obtain ⟨_, _, h⟩ := bind_eq_ok_iff.1 h
    rw [pure_eq_ok_iff] at h
    simp [← h, hkey]
  split at h
  · rename_i hkey _ _
    obtain ⟨_, _, h⟩ := bind_eq_ok_iff.1 h
    rw [pure_eq_ok_iff] at h
    simp [← h, hkey]
  · exact absurd h (reject_ne_ok _ _ _)

theorem exists_presenceMembers_iff (hrec : Recognizes below (Json.object inner).height)
    (hroom : child.HasRoom (.object inner)) :
    ∀ (rest : List (String × Json)) (parts : PresenceParts), (∀ entry ∈ rest, entry ∈ inner) →
      ((∃ last, rest.foldlM (fun parts entry =>
          presenceMember below child parts entry.1 entry.2) parts = .ok last ∧
            last.present.isSome = true) ↔
        (∀ entry ∈ rest, IsPresenceEntry child.source entry.1 entry.2) ∧
          (parts.present.isSome = true ∨ ∃ entry ∈ rest, entry.1 = "present")) := by
  intro rest
  induction rest with
  | nil =>
    intro parts _
    simp [List.foldlM_nil, pure_eq_ok_iff]
  | cons entry rest ih =>
    intro parts hrest
    have hmem := hrest entry List.mem_cons_self
    have hfirst : Accepts (presenceMember below child parts entry.1 entry.2) ↔ _ :=
      accepts_presenceMember_iff hrec hroom hmem
    have htail := fun next => ih next fun other h => hrest other (List.mem_cons_of_mem _ h)
    have hsome : (∃ other ∈ entry :: rest, other.1 = "present") ↔
        entry.1 = "present" ∨ ∃ other ∈ rest, other.1 = "present" := by simp
    rw [List.forall_mem_cons, ← hfirst, hsome]
    simp only [List.foldlM_cons, bind_eq_ok_iff]
    constructor
    · intro h
      obtain ⟨last, ⟨next, hnext, hlast⟩, hpresent⟩ := h
      obtain ⟨hall, hgiven⟩ := (htail next).1 ⟨last, hlast, hpresent⟩
      refine ⟨⟨⟨next, hnext⟩, hall⟩, ?_⟩
      rw [present_of_presenceMember hnext, or_assoc] at hgiven
      exact hgiven
    · intro h
      obtain ⟨⟨⟨next, hnext⟩, hall⟩, hgiven⟩ := h
      rw [← or_assoc, ← present_of_presenceMember hnext] at hgiven
      obtain ⟨last, hlast, hpresent⟩ := (htail next).2 ⟨hall, hgiven⟩
      exact ⟨last, ⟨next, hnext, hlast⟩, hpresent⟩

theorem accepts_presenceWithin_iff (hrec : Recognizes below (Json.object inner).height)
    (hroom : child.HasRoom (.object inner)) :
    Accepts (presenceWithin below child inner) ↔
      Grammar.IsMember child.source members .presence (.object inner) := by
  have hfold := exists_presenceMembers_iff hrec hroom inner ⟨none, none, none⟩ fun entry h => h
  have hread : Accepts (presenceWithin below child inner) ↔ ∃ last, inner.foldlM (fun parts entry =>
      presenceMember below child parts entry.1 entry.2) ⟨none, none, none⟩ = .ok last ∧
        last.present.isSome = true := by
    rw [presenceWithin, accepts_bind_iff]
    refine exists_congr fun last => and_congr_right fun _ => ?_
    split
    · rename_i present hpresent
      simp [hpresent]
    · rename_i hpresent
      simp [hpresent]
  rw [hread, hfold]
  constructor
  · intro h
    obtain ⟨hall, hgiven⟩ := h
    have hentry : ∀ name value, (name, value) ∈ inner →
        IsPresenceEntry child.source name value := fun name value h => hall _ h
    have hpresent : ∀ value, ("present", value) ∈ inner → ∃ present, value = .bool present := by
      intro value hmem
      simpa [IsPresenceEntry] using hentry _ value hmem
    refine .presenceOf ?_ ?_ hpresent ?_ ?_
    · intro name value hmem
      obtain ⟨rfl, _⟩ | ⟨rfl, _⟩ | ⟨rfl, _⟩ := hentry name value hmem <;> simp
    · obtain hnone | ⟨⟨name, value⟩, hmem, hname⟩ := hgiven
      · cases hnone
      · replace hname : name = "present" := hname
        rw [hname] at hmem
        obtain ⟨present, rfl⟩ := hpresent value hmem
        exact ⟨present, hmem⟩
    · intro value hmem
      simpa [IsPresenceEntry] using hentry _ value hmem
    · intro value hmem
      simpa [IsPresenceEntry] using hentry _ value hmem
  · intro h
    cases h with
    | question _ h => cases h
    | presenceOf hkeys hgiven hpresent hsince helapsed =>
      refine ⟨?_, ?_⟩
      · intro entry hmem
        obtain ⟨name, value⟩ := entry
        have hname := hkeys name value hmem
        simp only [List.mem_cons, List.not_mem_nil, or_false] at hname
        obtain rfl | rfl | rfl := hname
        · exact .inl ⟨rfl, hpresent value hmem⟩
        · exact .inr (.inl ⟨rfl, hsince value hmem⟩)
        · exact .inr (.inr ⟨rfl, helapsed value hmem⟩)
      · obtain ⟨present, hmem⟩ := hgiven
        exact .inr ⟨_, hmem, rfl⟩

/-! ### What stands under a keyword -/

theorem accepts_needRoot_iff : Accepts (needRoot place child key) ↔ place.source.isRoot = true :=
  ⟨fun ⟨_, h⟩ => needRoot_eq_ok_iff.1 h, fun h => ⟨(), needRoot_eq_ok_iff.2 h⟩⟩

theorem accepts_needOwner_iff : Accepts (needOwner place child key) ↔ place.source.isOwner = true :=
  ⟨fun ⟨_, h⟩ => needOwner_eq_ok_iff.1 h, fun h => ⟨(), needOwner_eq_ok_iff.2 h⟩⟩

theorem accepts_needValue_iff : Accepts (needValue place child key) ↔ place.source.isRoot = false :=
  ⟨fun ⟨_, h⟩ => needValue_eq_ok_iff.1 h, fun h => ⟨(), needValue_eq_ok_iff.2 h⟩⟩

/-- A test is accepted where there is a value to test and what is asked of it can be read. -/
theorem accepts_test_iff {α : Type} {read : Except Rejection α} {test : α → PlacedCriterion} :
    Accepts (do needValue place child key; return test (← read)) ↔
      place.source.isRoot = false ∧ Accepts read := by
  rw [accepts_bind_iff_and fun _ _ => accepts_bind_pure_iff, accepts_needValue_iff]

theorem accepts_keyworded_iff {keyword : Keyword}
    (hrec : Recognizes below (Json.object members).height)
    (hroom : place.HasRoom (.object members)) (hlt : value.height < (Json.object members).height)
    (hsource : child.source = place.source) (hinner : child.HasRoom value) :
    Accepts (keyworded below members place child key keyword value) ↔
      Grammar.IsMember place.source members keyword value := by
  have hbelow : ∀ source, Accepts (below value (child.withSource source)) ↔
      Grammar.IsCriterion source value :=
    fun source => hrec value _ hlt (hinner.withSource source)
  have hdeeper : Recognizes below value.height := hrec.mono (Nat.le_of_lt hlt)
  cases keyword with
  | field path =>
    rw [keyworded, accepts_bind_iff]
    simp only [fieldPath_eq_ok_iff, accepts_bind_iff, fieldBelow_eq_ok_iff, hbelow]
    constructor
    · intro h
      rcases h with ⟨_, ⟨hpath, rfl⟩, _, ⟨hfields, rfl⟩, h⟩
      exact .field hpath hfields h
    · intro h
      cases h with
      | field hpath hfields h => exact ⟨_, ⟨hpath, rfl⟩, _, ⟨hfields, rfl⟩, h⟩
      | question _ h => cases h
  | order operator =>
    rw [keyworded, accepts_test_iff, Literal.accepts_ofJson_iff hinner, hsource]
    constructor
    · intro h
      obtain ⟨hvalue, h⟩ := h
      exact .question hvalue (.order h)
    · intro h
      cases h with
      | question hvalue h => cases h with
        | order h => exact ⟨hvalue, h⟩
  | equal =>
    rw [keyworded, accepts_test_iff, Literal.accepts_ofJson_iff hinner, hsource]
    constructor
    · intro h
      obtain ⟨hvalue, h⟩ := h
      exact .question hvalue (.equal h)
    · intro h
      cases h with
      | question hvalue h => cases h with
        | equal h => exact ⟨hvalue, h⟩
  | any =>
    rw [keyworded, accepts_test_iff, accepts_literalList_iff hinner, hsource]
    constructor
    · intro h
      rcases h with ⟨hvalue, items, rfl, h⟩
      exact .question hvalue (.any h)
    · intro h
      cases h with
      | question hvalue h => cases h with
        | any h => exact ⟨hvalue, _, rfl, h⟩
  | all =>
    rw [keyworded, accepts_test_iff, accepts_literalList_iff hinner, hsource]
    constructor
    · intro h
      rcases h with ⟨hvalue, items, rfl, h⟩
      exact .question hvalue (.all h)
    · intro h
      cases h with
      | question hvalue h => cases h with
        | all h => exact ⟨hvalue, _, rfl, h⟩
  | startsWith =>
    rw [keyworded, accepts_test_iff]
    simp only [Accepts, stringOf_eq_ok_iff]
    constructor
    · intro h
      rcases h with ⟨hvalue, text, rfl⟩
      exact .question hvalue .startsWith
    · intro h
      cases h with
      | question hvalue h => cases h with
        | startsWith => exact ⟨hvalue, _, rfl⟩
  | inside =>
    rw [keyworded, accepts_test_iff, Literal.accepts_areaOfJson_iff hinner]
    constructor
    · intro h
      obtain ⟨hvalue, h⟩ := h
      exact .question hvalue (.inside h)
    · intro h
      cases h with
      | question hvalue h => cases h with
        | inside h => exact ⟨hvalue, h⟩
  | and =>
    rw [keyworded, accepts_bind_pure_iff, accepts_criteriaList_iff hdeeper hinner, hsource]
    constructor
    · intro h
      rcases h with ⟨items, rfl, h⟩
      exact .and h
    · intro h
      cases h with
      | question _ h => cases h
      | and h => exact ⟨_, rfl, h⟩
  | or =>
    rw [keyworded, accepts_bind_pure_iff, accepts_criteriaList_iff hdeeper hinner, hsource]
    constructor
    · intro h
      rcases h with ⟨items, rfl, h⟩
      exact .or h
    · intro h
      cases h with
      | question _ h => cases h
      | or h => exact ⟨_, rfl, h⟩
  | not =>
    rw [keyworded, accepts_bind_pure_iff, hrec value child hlt hinner, hsource]
    constructor
    · exact .not
    · intro h
      cases h with
      | question _ h => cases h
      | not h => exact h
  | installation =>
    rw [keyworded, accepts_bind_iff_and fun _ _ => hbelow _, accepts_needRoot_iff]
    constructor
    · intro h
      obtain ⟨hroot, h⟩ := h
      exact .installation hroot h
    · intro h
      cases h with
      | question _ h => cases h
      | installation hroot h => exact ⟨hroot, h⟩
  | user =>
    rw [keyworded, accepts_bind_iff_and fun _ _ => hbelow _, accepts_needRoot_iff]
    constructor
    · intro h
      obtain ⟨hroot, h⟩ := h
      exact .user hroot h
    · intro h
      cases h with
      | question _ h => cases h
      | user hroot h => exact ⟨hroot, h⟩
  | event =>
    rw [keyworded, accepts_bind_iff_and fun _ _ => accepts_bind_pure_iff, accepts_needRoot_iff,
      hbelow]
    constructor
    · intro h
      obtain ⟨hroot, h⟩ := h
      exact .event hroot h
    · intro h
      cases h with
      | question _ h => cases h
      | event hroot h => exact ⟨hroot, h⟩
  | lastActivity =>
    rw [keyworded, accepts_bind_iff_and fun _ _ => hbelow _, accepts_needOwner_iff]
    constructor
    · intro h
      obtain ⟨howner, h⟩ := h
      exact .lastActivity howner h
    · intro h
      cases h with
      | question _ h => cases h
      | lastActivity howner h => exact ⟨howner, h⟩
  | geo =>
    rw [keyworded, accepts_bind_iff_and fun _ _ => accepts_geoOf_iff hdeeper hinner,
      accepts_needOwner_iff, hsource]
    constructor
    · intro h
      rcases h with ⟨howner, inner, rfl, hne, hall⟩
      refine .geo howner hne ?_ ?_ ?_
      · intro name value hmem
        obtain ⟨hname, _⟩ | ⟨hname, _⟩ := hall _ hmem
        · simp [show name = "location" from hname]
        · simp [show name = "date" from hname]
      · intro value hmem
        simpa [IsGeoEntry] using hall _ hmem
      · intro value hmem
        simpa [IsGeoEntry] using hall _ hmem
    · intro h
      cases h with
      | question _ h => cases h
      | geo howner hne hkeys hlocation hdate =>
        refine ⟨howner, _, rfl, hne, ?_⟩
        intro entry hmem
        obtain ⟨name, value⟩ := entry
        have hname := hkeys name value hmem
        simp only [List.mem_cons, List.not_mem_nil, or_false] at hname
        obtain rfl | rfl := hname
        · exact .inl ⟨rfl, hlocation value hmem⟩
        · exact .inr ⟨rfl, hdate value hmem⟩
  | subscription =>
    rw [keyworded, accepts_bind_iff_and fun _ _ => accepts_bind_pure_iff, accepts_needOwner_iff]
    simp only [Accepts, statusOf_eq_ok_iff]
    constructor
    · intro h
      rcases h with ⟨howner, status, rfl⟩
      exact .subscription howner
    · intro h
      cases h with
      | question _ h => cases h
      | subscription howner => exact ⟨howner, _, rfl⟩
  | presence =>
    cases value with
    | bool present => exact accepts_presenceBeside_iff hrec hroom
    | object inner =>
      rw [← hsource]
      exact accepts_presenceWithin_iff hdeeper hinner
    | _ =>
      refine iff_of_false (not_accepts_reject _ _) fun h => ?_
      cases h with
      | question _ h => cases h

/-! ### Members -/

/-- What may stand under a key in an object with given members. -/
def IsEntry (source : Source) (members : List (String × Json)) (key : String) (value : Json) :
    Prop :=
  if isPresenceSibling key then hasBooleanPresence members = true
  else ∃ keyword : Keyword, key = keyword.key ∧ Grammar.IsMember source members keyword value

theorem accepts_member_iff (hrec : Recognizes below (Json.object members).height)
    (hroom : place.HasRoom (.object members)) (hmem : (key, value) ∈ members) :
    Accepts (member below members place key value) ↔
      ∃ keyword : Keyword, key = keyword.key ∧
        Grammar.IsMember place.source members keyword value := by
  obtain ⟨child, hchild, hsource, hinner⟩ := hroom.key hmem
  rw [member, accepts_bind_of_ok hchild]
  split
  · rename_i keyword hkeyword
    rw [accepts_keyworded_iff hrec hroom (Json.height_lt_of_member hmem) hsource hinner]
    constructor
    · intro h
      exact ⟨keyword, Keyword.ofKey?_eq_some_iff.1 hkeyword, h⟩
    · intro h
      obtain ⟨other, hother, h⟩ := h
      rw [Keyword.ofKey?_eq_some_iff.2 hother, Option.some.injEq] at hkeyword
      rw [← hkeyword]
      exact h
  · rename_i hnone
    refine iff_of_false (not_accepts_reject _ _) ?_
    intro h
    obtain ⟨keyword, hkey, _⟩ := h
    rw [Keyword.ofKey?_eq_some_iff.2 hkey] at hnone
    cases hnone

theorem accepts_parts_iff (hrec : Recognizes below (Json.object members).height)
    (hroom : place.HasRoom (.object members)) :
    ∀ rest : List (String × Json), (∀ entry ∈ rest, entry ∈ members) →
      (Accepts (parts below members place rest) ↔
        ∀ entry ∈ rest, IsEntry place.source members entry.1 entry.2) := by
  intro rest
  induction rest with
  | nil =>
    intro _
    exact iff_of_true (accepts_ok _) (by simp)
  | cons entry rest ih =>
    intro hrest
    obtain ⟨key, value⟩ := entry
    have hmem : (key, value) ∈ members := hrest _ List.mem_cons_self
    have htail := ih fun other h => hrest other (List.mem_cons_of_mem _ h)
    rw [parts, List.forall_mem_cons, ← htail, IsEntry]
    split
    · split
      · rename_i hpresence
        exact ⟨fun h => ⟨hpresence, h⟩, fun h => h.2⟩
      · rename_i hpresence
        obtain ⟨child, hchild, _, _⟩ := hroom.key hmem
        rw [accepts_bind_of_ok hchild]
        exact iff_of_false (not_accepts_reject _ _) fun h => hpresence h.1
    · rw [accepts_bind_iff_and fun _ _ => accepts_bind_pure_iff,
        accepts_member_iff hrec hroom hmem]

/-! ### All levels -/

/-- An object is a criterion if all of its members may stand in it. -/
theorem isCriterion_object_iff : Grammar.IsCriterion source (.object members) ↔
    ∀ entry ∈ members, IsEntry source members entry.1 entry.2 := by
  constructor
  · intro h
    cases h with
    | object hkeys hmembers =>
      intro entry hmem
      obtain ⟨key, value⟩ := entry
      obtain ⟨keyword, rfl⟩ | ⟨hsibling, hpresence⟩ := hkeys key value hmem
      · rw [IsEntry, if_neg]
        · exact ⟨keyword, rfl, hmembers keyword value hmem⟩
        · rw [isPresenceSibling_iff]
          exact key_not_mem_siblingKeys keyword
      · rw [IsEntry, if_pos (isPresenceSibling_iff.2 hsibling), hasBooleanPresence_iff]
        exact hpresence
  · intro h
    refine .object ?_ ?_
    · intro key value hmem
      have hentry := h _ hmem
      rw [IsEntry] at hentry
      split at hentry
      · rename_i hsibling
        exact .inr ⟨isPresenceSibling_iff.1 hsibling, hasBooleanPresence_iff.1 hentry⟩
      · obtain ⟨keyword, hkey, _⟩ := hentry
        exact .inl ⟨keyword, hkey⟩
    · intro keyword value hmem
      have hentry := h _ hmem
      rw [IsEntry, if_neg] at hentry
      · obtain ⟨other, hkey, hmember⟩ := hentry
        have heq : keyword = other := by
          rw [← Option.some.injEq, ← Keyword.ofKey?_key, ← Keyword.ofKey?_key other, ← hkey]
        rw [heq]
        exact hmember
      · rw [isPresenceSibling_iff]
        exact key_not_mem_siblingKeys keyword

theorem accepts_level_iff {json : Json} (hrec : Recognizes below json.height)
    (hroom : place.HasRoom json) :
    Accepts (level below json place) ↔ Grammar.IsCriterion place.source json := by
  unfold level
  split
  · rw [isCriterion_object_iff]
    exact iff_of_true (accepts_ok _) (by simp)
  · rw [accepts_bind_pure_iff, isCriterion_object_iff]
    exact accepts_parts_iff hrec hroom _ fun entry h => h
  · rename_i hne
    refine iff_of_false (not_accepts_reject _ _) fun h => ?_
    cases h with
    | object => exact hne _ rfl

/-- Any number of levels that is enough for the height of a value is enough to recognize it. -/
theorem recognizes_readWithin : ∀ levels : Nat, Recognizes (readWithin levels) (levels + 1) := by
  intro levels
  induction levels with
  | zero =>
    intro json place hlt hroom
    refine accepts_level_iff ?_ hroom
    -- nothing is below a value without height
    intro inner place' hinner _
    omega
  | succ levels ih =>
    intro json place hlt hroom
    exact accepts_level_iff (ih.mono (by omega)) hroom

/-- A document is accepted, where the depth limit has room for it, if and only if it is a criterion
under the source in force. -/
theorem accepted_iff_isCriterion (json : Json) (place : Place) (hroom : place.HasRoom json) :
    (∃ criterion, read json place = .ok criterion) ↔
      Grammar.IsCriterion place.source json := by
  have hlevels : json.height < place.limits.maxDepth - place.depth + 1 := by
    rw [Place.HasRoom] at hroom
    omega
  exact recognizes_readWithin _ json place hlevels hroom

/-- A presence of a field with a comparison beside it, as deep as the limit allows. -/
theorem accepted_presence_isCriterion :
    (Place.root ⟨2, 10⟩).HasRoom (.object [("presence", .bool true),
      ("sinceDateComparison", .object [("gt", .string "-P1M")]), ("source", .string "user.plan")]) ∧
    Grammar.IsCriterion .installation (.object [("presence", .bool true),
      ("sinceDateComparison", .object [("gt", .string "-P1M")]),
      ("source", .string "user.plan")]) := by
  have hroom : (Place.root ⟨2, 10⟩).HasRoom (.object [("presence", .bool true),
      ("sinceDateComparison", .object [("gt", .string "-P1M")]),
      ("source", .string "user.plan")]) := by
    rw [Place.HasRoom]
    decide
  have haccepted : Accepts (read (.object [("presence", .bool true),
      ("sinceDateComparison", .object [("gt", .string "-P1M")]),
      ("source", .string "user.plan")]) (Place.root ⟨2, 10⟩)) :=
    accepts_of_isOk (by decide +kernel)
  exact ⟨hroom, (accepted_iff_isCriterion _ _ hroom).1 haccepted⟩

end Audience.Criterion
