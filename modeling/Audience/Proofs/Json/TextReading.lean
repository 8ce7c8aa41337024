import Audience.Proofs.Json.Canonical
import Audience.Proofs.Json.TextTokens

/-!
# Values read back from their text

The text of a value is read as the structure of the value that comes back of it, but for the containers
that are nested too deep, in whose places the structure is unreadable. So a value with no such container
comes back, and one with such a container does not.

* **`Json.nesting`**: how many containers stand within each other.
* **`Json.within`**: the structure of a value down to a depth. **`Json.within_eq_spelling`**: to a
  sufficient one it is the whole. **`Json.nesting_le_of_value?`**: to no other one it has a value.
* **`Json.Spelling.Builder.foldlM_tokens`**: a run over the tokens of a value puts its structure in its
  place, a container by a run over its rows (`foldlM_row`).
* **`Json.Spelling.ofText?_text`**: the structure of the text of a value.
* **`Json.ofText?_text`**: what comes back of a value from its text. **`Json.HasShortNumbers`**,
  **`Json.reread_eq_self`**: when that is the value.
-/

namespace Audience.Json

/-! ### Containers within each other -/

mutual

/-- How many containers stand within each other, the value among them. -/
def nesting : Json → Nat
  | array items => itemsNesting items + 1
  | object members => membersNesting members + 1
  | null | bool _ | number _ | string _ => 0

/-- How many containers stand within each other in one of several items. -/
def itemsNesting : List Json → Nat
  | [] => 0
  | item :: rest => max (nesting item) (itemsNesting rest)

/-- How many containers stand within each other in one of several members. -/
def membersNesting : List (String × Json) → Nat
  | [] => 0
  | (_, value) :: rest => max (nesting value) (membersNesting rest)

end

mutual

/-- The structure of a value in which a container that stands within `room` others is unreadable. -/
def within : Nat → Json → Spelling
  | _, null => .null
  | _, bool value => .bool value
  | _, number value => .number value
  | _, string value => .string value
  | room + 1, array items => .array (itemsWithin room items)
  | room + 1, object members => .object (membersWithin room members)
  | 0, array _ | 0, object _ => .unreadable

/-- The structures of a row of values. -/
def itemsWithin : Nat → List Json → List Spelling
  | _, [] => []
  | room, item :: rest => within room item :: itemsWithin room rest

/-- The structures of members. -/
def membersWithin : Nat → List (String × Json) → List (Option String × Spelling)
  | _, [] => []
  | room, (key, value) :: rest => (some key, within room value) :: membersWithin room rest

end

theorem itemsWithin_eq_map (room : Nat) (items : List Json) :
    itemsWithin room items = items.map (within room) := by
  induction items with
  | nil => rfl
  | cons item rest ih => rw [itemsWithin, ih, List.map_cons]

theorem membersWithin_eq_map (room : Nat) (members : List (String × Json)) :
    membersWithin room members = members.map fun entry => (some entry.1, entry.2.within room) := by
  induction members with
  | nil => rfl
  | cons entry rest ih => rw [membersWithin, ih, List.map_cons]

variable {room : Nat} {items : List Json} {members : List (String × Json)}

theorem itemsNesting_le_iff : itemsNesting items ≤ room ↔ ∀ item ∈ items, item.nesting ≤ room := by
  induction items with
  | nil => simp [itemsNesting]
  | cons item rest ih => simp [itemsNesting, ih]

theorem membersNesting_le_iff :
    membersNesting members ≤ room ↔ ∀ entry ∈ members, entry.2.nesting ≤ room := by
  induction members with
  | nil => simp [membersNesting]
  | cons entry rest ih => simp [membersNesting, ih]

mutual

/-- With room for all containers, the structure is whole. -/
theorem within_eq_spelling {json : Json} {room : Nat} (h : json.nesting ≤ room) :
    json.within room = json.spelling := by
  cases json with
  | array items =>
    cases room with
    | zero => cases h
    | succ room => rw [within, spelling, itemsWithin_eq_spellings (Nat.le_of_succ_le_succ h)]
  | object members =>
    cases room with
    | zero => cases h
    | succ room => rw [within, spelling, membersWithin_eq_memberSpellings (Nat.le_of_succ_le_succ h)]
  | _ => rfl

theorem itemsWithin_eq_spellings {items : List Json} {room : Nat} (h : itemsNesting items ≤ room) :
    itemsWithin room items = spellings items := by
  cases items with
  | nil => rfl
  | cons item rest =>
    obtain ⟨hitem, hrest⟩ := Nat.max_le.1 h
    rw [itemsWithin, spellings, within_eq_spelling hitem, itemsWithin_eq_spellings hrest]

theorem membersWithin_eq_memberSpellings {members : List (String × Json)} {room : Nat}
    (h : membersNesting members ≤ room) : membersWithin room members = memberSpellings members := by
  cases members with
  | nil => rfl
  | cons member rest =>
    obtain ⟨hvalue, hrest⟩ := Nat.max_le.1 h
    rw [membersWithin, memberSpellings, within_eq_spelling hvalue, membersWithin_eq_memberSpellings hrest]

end

mutual

/-- A value is read only with room for all containers. -/
theorem nesting_le_of_value? {json value : Json} {room : Nat}
    (h : (json.within room).value? = some value) : json.nesting ≤ room := by
  cases json with
  | array items =>
    cases room with
    | zero => cases h
    | succ room =>
      obtain ⟨values, hvalues, -⟩ := Option.map_eq_some_iff.1 h
      exact Nat.succ_le_succ (itemsNesting_le_of_itemValues? hvalues)
  | object members =>
    cases room with
    | zero => cases h
    | succ room =>
      obtain ⟨values, hvalues, -⟩ := Option.map_eq_some_iff.1 h
      exact Nat.succ_le_succ (membersNesting_le_of_memberValues? hvalues)
  | _ => exact Nat.zero_le _

theorem itemsNesting_le_of_itemValues? {items values : List Json} {room : Nat}
    (h : Spelling.itemValues? (itemsWithin room items) = some values) : itemsNesting items ≤ room := by
  cases items with
  | nil => exact Nat.zero_le _
  | cons item rest =>
    obtain ⟨value, hvalue, h⟩ := Option.bind_eq_some_iff.1 h
    obtain ⟨others, hothers, -⟩ := Option.bind_eq_some_iff.1 h
    exact Nat.max_le.2 ⟨nesting_le_of_value? hvalue, itemsNesting_le_of_itemValues? hothers⟩

theorem membersNesting_le_of_memberValues? {members values : List (String × Json)} {room : Nat}
    (h : Spelling.memberValues? (membersWithin room members) = some values) :
    membersNesting members ≤ room := by
  cases members with
  | nil => exact Nat.zero_le _
  | cons member rest =>
    obtain ⟨value, hvalue, h⟩ := Option.bind_eq_some_iff.1 h
    obtain ⟨others, hothers, -⟩ := Option.bind_eq_some_iff.1 h
    exact Nat.max_le.2 ⟨nesting_le_of_value? hvalue, membersNesting_le_of_memberValues? hothers⟩

end

/-- The members of an object are read as the members of its value. -/
theorem members?_value? (members : List (Option String × Spelling)) :
    (Spelling.object members).members? Spelling.value? =
      (Spelling.memberValues? members).map ordered := by
  have hmembers : members.mapM (fun member => do return (← member.1, ← member.2.value?)) =
      Spelling.memberValues? members := by
    induction members with
    | nil => rfl
    | cons member rest ih =>
      obtain ⟨key, value⟩ := member
      rw [List.mapM_cons, ih, Spelling.memberValues?]
      cases key <;> cases value.value? <;> rfl
  rw [Spelling.members?, hmembers, bind_pure_comp]
  rfl

theorem nesting_le_of_members? {members found : List (String × Json)} {room : Nat}
    (h : ((object members).within room).members? Spelling.value? = some found) :
    (object members).nesting ≤ room := by
  cases room with
  | zero => cases h
  | succ room =>
    rw [within, members?_value?] at h
    obtain ⟨values, hvalues, -⟩ := Option.map_eq_some_iff.1 h
    exact Nat.succ_le_succ (membersNesting_le_of_memberValues? hvalues)

/-! ### The structure of a text -/

namespace Spelling.Builder

variable {limit : Nat} {frames : List Frame} {expecting : Expecting} {token : Token}

/-- A value may come next. -/
def TakesValue (expecting : Expecting) : Prop := expecting = .value ∨ expecting = .firstItem

/-- A member may come next. -/
def TakesMember (expecting : Expecting) : Prop := expecting = .member ∨ expecting = .firstMember

theorem step?_of_takesValue (h : TakesValue expecting) (hclose : token ≠ .arrayClose) :
    step? limit (.inside frames expecting) token = begun frames token := by
  rcases h with rfl | rfl
  · rfl
  · cases token with
    | arrayClose => exact absurd rfl hclose
    | _ => rfl

theorem step?_of_takesMember (h : TakesMember expecting) (key : Option String) :
    step? limit (.inside frames expecting) (.string key) = keyed frames key := by
  rcases h with rfl | rfl <;> rfl

/-- A container takes one from the room of what it holds. -/
theorem contained_within {json : Json} {whole : Spelling} (hzero : json.within 0 = .unreadable)
    (hwhole : whole = json.within (limit - (frames.length + 1) + 1)) :
    contained limit frames whole = json.within (limit - frames.length) := by
  by_cases h : frames.length < limit
  · have hroom : limit - (frames.length + 1) + 1 = limit - frames.length := by omega
    rw [contained, if_pos h, hwhole, hroom]
  · have hroom : limit - frames.length = 0 := by omega
    rw [contained, if_neg h, hroom, hzero]

/-- The tokens of a row put a value into the innermost container, which `hold` makes of what it holds. -/
def Puts {α : Type} (limit : Nat) (frames : List Frame) (hold : List α → Frame)
    (takes : Expecting → Prop) (row : List Token) (value : α) : Prop :=
  ∀ before expecting, takes expecting →
    row.foldlM (step? limit) (.inside (hold before :: frames) expecting) =
      some (.inside (hold (value :: before) :: frames) .more)

/-- Rows with commas between them put in their values one after the other. -/
theorem foldlM_row {α : Type} {hold : List α → Frame} {takes : Expecting → Prop} {next : Expecting}
    (hnext : takes next)
    (hcomma : ∀ before, step? limit (.inside (hold before :: frames) .more) .comma =
      some (.inside (hold before :: frames) next))
    {rows : List (List Token)} {values : List α}
    (h : List.Forall₂ (Puts limit frames hold takes) rows values) (hne : rows ≠ [])
    (before : List α) {expecting : Expecting} (hexpecting : takes expecting) :
    ([.comma].intercalate rows).foldlM (step? limit) (.inside (hold before :: frames) expecting) =
      some (.inside (hold (values.reverse ++ before) :: frames) .more) := by
  induction h generalizing before expecting with
  | nil => exact absurd rfl hne
  | @cons row value rest others hrow hrest ih =>
    rw [List.reverse_cons, List.append_assoc, List.singleton_append]
    cases hrest with
    | nil =>
      rw [List.intercalate_singleton, hrow before expecting hexpecting, List.reverse_nil,
        List.nil_append]
    | cons hfirst hothers =>
      rw [List.intercalate_cons_cons, List.append_assoc,
        foldlM_append_of_some (hrow before expecting hexpecting), List.singleton_append,
        foldlM_cons_of_some (hcomma _), ih (List.cons_ne_nil _ _) _ hnext]

mutual

/-- The tokens of a value put it in its place. -/
theorem foldlM_tokens (json : Json) (frames : List Frame) {expecting : Expecting}
    (h : TakesValue expecting) : json.tokens.foldlM (step? limit) (.inside frames expecting) =
      placed frames (json.within (limit - frames.length)) := by
  cases json with
  | array items =>
    have hopen : step? limit (.inside frames expecting) .arrayOpen =
        some (.inside (.items [] :: frames) .firstItem) := step?_of_takesValue h nofun
    have hwhole : contained limit frames (.array (itemsWithin (limit - (frames.length + 1)) items)) =
        (Json.array items).within (limit - frames.length) := contained_within rfl rfl
    have hrows := puts_itemTokens items frames
    rw [tokens, foldlM_cons_of_some hopen, ← hwhole]
    cases items with
    | nil => exact foldlM_singleton
    | cons item rest =>
      have hrow := foldlM_row (.inl rfl) (fun _ => rfl) hrows (List.cons_ne_nil _ _) [] (.inr rfl)
      rw [foldlM_append_of_some hrow, foldlM_singleton, List.append_nil]
      show placed frames (contained limit frames (.array (List.reverse (List.reverse _)))) = _
      rw [List.reverse_reverse]
  | object members =>
    have hopen : step? limit (.inside frames expecting) .objectOpen =
        some (.inside (.members [] :: frames) .firstMember) := step?_of_takesValue h nofun
    have hwhole : contained limit frames
        (.object (membersWithin (limit - (frames.length + 1)) members)) =
        (Json.object members).within (limit - frames.length) := contained_within rfl rfl
    have hrows := puts_memberTokens members frames
    rw [tokens, foldlM_cons_of_some hopen, ← hwhole]
    cases members with
    | nil => exact foldlM_singleton
    | cons member rest =>
      have hrow := foldlM_row (.inl rfl) (fun _ => rfl) hrows (List.cons_ne_nil _ _) [] (.inr rfl)
      rw [foldlM_append_of_some hrow, foldlM_singleton, List.append_nil]
      show placed frames (contained limit frames (.object (List.reverse (List.reverse _)))) = _
      rw [List.reverse_reverse]
  | _ =>
    rw [tokens, foldlM_singleton, within]
    exact step?_of_takesValue h nofun

theorem puts_itemTokens (items : List Json) (frames : List Frame) :
    List.Forall₂ (Puts limit frames .items TakesValue) (itemTokens items)
      (itemsWithin (limit - (frames.length + 1)) items) := by
  cases items with
  | nil => exact .nil
  | cons item rest =>
    exact .cons (fun before _ h => foldlM_tokens item (.items before :: frames) h)
      (puts_itemTokens rest frames)

theorem puts_memberTokens (members : List (String × Json)) (frames : List Frame) :
    List.Forall₂ (Puts limit frames .members TakesMember) (memberTokens members)
      (membersWithin (limit - (frames.length + 1)) members) := by
  cases members with
  | nil => exact .nil
  | cons member rest =>
    obtain ⟨key, value⟩ := member
    refine .cons (fun before expecting h => ?_) (puts_memberTokens rest frames)
    have hkey : step? limit (.inside (.members before :: frames) expecting) (.string (some key)) =
        some (.inside (.memberOf before (some key) :: frames) .colon) := step?_of_takesMember h _
    have hcolon : step? limit (.inside (.memberOf before (some key) :: frames) .colon) .colon =
        some (.inside (.memberOf before (some key) :: frames) .value) := rfl
    rw [foldlM_cons_of_some hkey, foldlM_cons_of_some hcolon, foldlM_tokens value _ (.inl rfl)]
    rfl

end

end Spelling.Builder

/-- The text of a value has the structure of the value that comes back, down to the limit. -/
theorem Spelling.ofText?_text (limit : Nat) (json : Json) :
    Spelling.ofText? limit json.text = some (json.reread.within limit) := by
  rw [Spelling.ofText?, tokens?_text, Option.bind_eq_bind, Option.bind_some,
    Builder.foldlM_tokens json.reread [] (.inl rfl)]
  rfl

/-! ### Values that come back -/

mutual

theorem nesting_reread (json : Json) : json.reread.nesting = json.nesting := by
  cases json with
  | array items => rw [reread, nesting, nesting, itemsNesting_rereadItems]
  | object members => rw [reread, nesting, nesting, membersNesting_rereadMembers]
  | _ => rfl

theorem itemsNesting_rereadItems (items : List Json) :
    itemsNesting (rereadItems items) = itemsNesting items := by
  cases items with
  | nil => rfl
  | cons item rest =>
    rw [rereadItems, itemsNesting, itemsNesting, nesting_reread, itemsNesting_rereadItems]

theorem membersNesting_rereadMembers (members : List (String × Json)) :
    membersNesting (rereadMembers members) = membersNesting members := by
  cases members with
  | nil => rfl
  | cons member rest =>
    rw [rereadMembers, membersNesting, membersNesting, nesting_reread, membersNesting_rereadMembers]

end

mutual

theorem canonical_reread {json : Json} (h : json.Canonical) : json.reread.Canonical := by
  cases json with
  | array items => exact allCanonical_rereadItems h
  | object members =>
    refine ⟨?_, membersCanonical_rereadMembers h.2⟩
    rw [rereadMembers_eq_map]
    exact h.1.map_values reread
  | _ => trivial

theorem allCanonical_rereadItems {items : List Json} (h : AllCanonical items) :
    AllCanonical (rereadItems items) := by
  cases items with
  | nil => trivial
  | cons item rest => exact ⟨canonical_reread h.1, allCanonical_rereadItems h.2⟩

theorem membersCanonical_rereadMembers {members : List (String × Json)} (h : MembersCanonical members) :
    MembersCanonical (rereadMembers members) := by
  cases members with
  | nil => trivial
  | cons member rest => exact ⟨canonical_reread h.1, membersCanonical_rereadMembers h.2⟩

end

theorem ofBinary64_finite (negative : Bool) (size : Magnitude) :
    ofBinary64 (.finite negative size) = number (.real negative size) := by
  rw [ofBinary64, Number.ofBinary64?, Option.map_some, Option.getD_some]

theorem reread_ofBinary64 (value : Binary64) : (ofBinary64 value).reread = ofBinary64 value.reread := by
  cases value with
  | finite negative size =>
    rw [ofBinary64_finite, reread, Number.reread, Binary64.reread, ofBinary64_finite]
  | _ => rfl

mutual

/-- Every number in the value is an integer or short. -/
def HasShortNumbers : Json → Prop
  | number value => value.IsShort
  | array items => ItemsHaveShortNumbers items
  | object members => MembersHaveShortNumbers members
  | null | bool _ | string _ => True

/-- Every number in one of several items is. -/
def ItemsHaveShortNumbers : List Json → Prop
  | [] => True
  | item :: rest => HasShortNumbers item ∧ ItemsHaveShortNumbers rest

/-- Every number in one of several members is. -/
def MembersHaveShortNumbers : List (String × Json) → Prop
  | [] => True
  | (_, value) :: rest => HasShortNumbers value ∧ MembersHaveShortNumbers rest

end

mutual

/-- A value with no other numbers comes back as itself. -/
theorem reread_eq_self {json : Json} (h : json.HasShortNumbers) : json.reread = json := by
  cases json with
  | number value => rw [reread, Number.reread_eq_self h]
  | array items => rw [reread, rereadItems_eq_self h]
  | object members => rw [reread, rereadMembers_eq_self h]
  | _ => rfl

theorem rereadItems_eq_self {items : List Json} (h : ItemsHaveShortNumbers items) :
    rereadItems items = items := by
  cases items with
  | nil => rfl
  | cons item rest => rw [rereadItems, reread_eq_self h.1, rereadItems_eq_self h.2]

theorem rereadMembers_eq_self {members : List (String × Json)} (h : MembersHaveShortNumbers members) :
    rereadMembers members = members := by
  cases members with
  | nil => rfl
  | cons member rest => rw [rereadMembers, reread_eq_self h.1, rereadMembers_eq_self h.2]

end

/-- A canonical value comes back from its text exactly if it is not nested too deep, with its numbers as
they come back. -/
theorem ofText?_text {json : Json} (h : json.Canonical) :
    ofText? json.text = if json.nesting ≤ nestingLimit then some json.reread else none := by
  have htext : ofText? json.text = (json.reread.within nestingLimit).value? := by
    rw [ofText?, Spelling.ofText?_text]
    rfl
  rw [htext, ← nesting_reread json]
  split
  · rename_i hroom
    rw [within_eq_spelling hroom, value?_spelling (canonical_reread h)]
  · rename_i hroom
    exact Option.eq_none_iff_forall_ne_some.2 fun value hvalue => hroom (nesting_le_of_value? hvalue)

end Audience.Json
