import Audience.Rejection

/-!
# Where values stand in a document

A value of a document is found by steps into members and items.

* **`Json.Leads`**: steps lead from a document to a value in it. **`Json.Leads.append`**: steps may be
  taken one after another.
* **`Json.height`**: the greatest number of steps that can be taken. **`Json.height_lt_of_member`**,
  **`Json.height_lt_of_item`**: a step lowers it.
* **`Json.mem_of_find?`**: what is found under a key is a member.
-/

namespace Audience.Json

/-! ### Steps to a value -/

/-- The steps lead from a document to a value that is in it. -/
inductive Leads : Json → List Step → Json → Prop
  | here (json : Json) : Leads json [] json
  | member {members : List (String × Json)} {name : String} {inner value : Json}
      {steps : List Step} (h : (name, inner) ∈ members) (rest : Leads inner steps value) :
      Leads (.object members) (.key name :: steps) value
  | item {items : List Json} {position : Nat} {inner value : Json} {steps : List Step}
      (h : items[position]? = some inner) (rest : Leads inner steps value) :
      Leads (.array items) (.index position :: steps) value

namespace Leads

variable {document inner value : Json} {steps more : List Step}

theorem append (h : Leads document steps inner) (rest : Leads inner more value) :
    Leads document (steps ++ more) value := by
  induction h with
  | here json => exact rest
  | member hmem _ ih => exact .member hmem (ih rest)
  | item hitem _ ih => exact .item hitem (ih rest)

/-- One more step, into a member. -/
theorem thenKey {members : List (String × Json)} {name : String}
    (h : Leads document steps (.object members)) (hmem : (name, value) ∈ members) :
    Leads document (steps ++ [.key name]) value :=
  h.append (.member hmem (.here value))

/-- One more step, into an item. -/
theorem thenIndex {items : List Json} {position : Nat} (h : Leads document steps (.array items))
    (hitem : items[position]? = some value) :
    Leads document (steps ++ [.index position]) value :=
  h.append (.item hitem (.here value))

end Leads

/-! ### Members by their keys -/

theorem mem_of_find? {α : Type} {members : List (String × α)} {key : String} {value : α}
    (h : find? members key = some value) : (key, value) ∈ members := by
  induction members with
  | nil => cases h
  | cons entry rest ih =>
    obtain ⟨name, first⟩ := entry
    rw [find?] at h
    split at h
    · rename_i hname
      cases h
      rw [hname]
      exact List.mem_cons_self
    · exact List.mem_cons_of_mem _ (ih h)

theorem find?_append {α : Type} (front back : List (String × α)) (key : String) :
    find? (front ++ back) key = (find? front key).or (find? back key) := by
  induction front with
  | nil => rfl
  | cons entry front ih =>
    obtain ⟨name, value⟩ := entry
    rw [List.cons_append, find?, find?]
    split
    · rfl
    · exact ih

/-- Leaving out members with other keys does not change what is found. -/
theorem find?_filter {α : Type} {members : List (String × α)} {p : String × α → Bool} {key : String}
    (h : ∀ entry ∈ members, entry.1 = key → p entry = true) :
    find? (members.filter p) key = find? members key := by
  induction members with
  | nil => rfl
  | cons entry rest ih =>
    have hrest := ih fun other hother => h other (List.mem_cons_of_mem _ hother)
    obtain ⟨name, value⟩ := entry
    rw [find?]
    by_cases hname : name = key
    · rw [List.filter_cons_of_pos (h _ List.mem_cons_self hname), find?, if_pos hname,
        if_pos hname]
    · rw [if_neg hname]
      by_cases hp : p (name, value) = true
      · rw [List.filter_cons_of_pos hp, find?, if_neg hname, hrest]
      · rw [List.filter_cons_of_neg hp, hrest]

/-- What a value holds under a key is a member of it. -/
theorem mem_of_member? {json value : Json} {key : String} (h : json.member? key = some value) :
    ∃ members, json = .object members ∧ (key, value) ∈ members := by
  cases json with
  | object members => exact ⟨members, rfl, mem_of_find? h⟩
  | _ => cases h

/-! ### The height of a document -/

mutual

/-- The greatest number of steps from a value into what it holds. -/
def height : Json → Nat
  | .array items => itemsHeight items
  | .object members => membersHeight members
  | .null | .bool _ | .number _ | .string _ => 0

/-- The greatest number of steps into one of several items. -/
def itemsHeight : List Json → Nat
  | [] => 0
  | item :: rest => max (height item + 1) (itemsHeight rest)

/-- The greatest number of steps into one of several members. -/
def membersHeight : List (String × Json) → Nat
  | [] => 0
  | (_, value) :: rest => max (height value + 1) (membersHeight rest)

end

theorem height_lt_of_item {items : List Json} {item : Json} (h : item ∈ items) :
    item.height < (Json.array items).height := by
  rw [height]
  induction items with
  | nil => cases h
  | cons first rest ih =>
    rw [itemsHeight]
    cases h with
    | head => omega
    | tail _ h => have := ih h; omega

theorem height_lt_of_member {members : List (String × Json)} {name : String} {value : Json}
    (h : (name, value) ∈ members) : value.height < (Json.object members).height := by
  rw [height]
  induction members with
  | nil => cases h
  | cons first rest ih =>
    obtain ⟨_, other⟩ := first
    rw [membersHeight]
    cases h with
    | head => omega
    | tail _ h => have := ih h; omega

theorem membersHeight_filter_le (p : String × Json → Bool) (members : List (String × Json)) :
    membersHeight (members.filter p) ≤ membersHeight members := by
  induction members with
  | nil => exact Nat.le_refl _
  | cons first rest ih =>
    obtain ⟨name, value⟩ := first
    rw [membersHeight]
    by_cases h : p (name, value) = true
    · rw [List.filter_cons_of_pos h, membersHeight]
      omega
    · rw [List.filter_cons_of_neg h]
      omega

end Audience.Json
