import Audience.Json.Fields
import Audience.Proofs.Outcome
import Mathlib.Data.List.Induction
import Mathlib.Data.List.Nodup
import Mathlib.Data.List.Perm.Basic
import Mathlib.Data.String.Basic

/-!
# Values as they are read

The members of an object are listed in the ascending order of their keys, at every depth. So they are
in every value that was read, and such a value has one structure, from which it is read again. An
object that is built from named members gives each of its fields back under its name.

* **`Json.Ascending`**, **`Json.ascending_put`**, **`Json.ordered_eq_self`**: members in the order of
  their keys.
* **`Json.Canonical`**: values whose objects are so listed. **`Json.canonical_of_value?`**: what is read
  is canonical. **`Json.value?_spelling`**: what is canonical is read from its structure.
* **`Json.entries?_ofMembers`**, **`Json.Entry.optional?_ofOption`**: the fields of an object that is
  written. **`Json.entryOf?_of_entries?`**, **`Json.entryOf?_of_mem`**: those of one that was read.
-/

namespace Audience.Json

variable {α : Type}

/-! ### Members in the order of their keys -/

section

variable {members : List (String × α)} {key : String} {value : α} {entry : String × α}

/-- The keys ascend, so that no two of them are equal. -/
def Ascending (members : List (String × α)) : Prop :=
  members.Pairwise fun first second => first.1 < second.1

theorem Ascending.nodup (h : Ascending members) : (members.map Prod.fst).Nodup :=
  List.pairwise_map.2 (h.imp fun hlt heq => absurd (heq ▸ hlt) (String.lt_irrefl _))

theorem Ascending.map_values {β : Type} (f : α → β) (h : Ascending members) :
    Ascending (members.map fun entry => (entry.1, f entry.2)) :=
  List.pairwise_map.2 h

theorem mem_put (h : entry ∈ put members key value) : entry = (key, value) ∨ entry ∈ members := by
  induction members with
  | nil => exact .inl (List.mem_singleton.1 h)
  | cons first rest ih =>
    rw [put] at h
    split at h
    · rcases List.mem_cons.1 h with rfl | h
      · exact .inr List.mem_cons_self
      · exact (ih h).imp_right (List.mem_cons_of_mem _)
    split at h
    · rcases List.mem_cons.1 h with rfl | h
      · exact .inl rfl
      · exact .inr (List.mem_cons_of_mem _ h)
    · exact List.mem_cons.1 h

theorem ascending_put (h : Ascending members) (key : String) (value : α) :
    Ascending (put members key value) := by
  induction members with
  | nil => exact List.pairwise_singleton _ _
  | cons first rest ih =>
    obtain ⟨hfirst, hrest⟩ := List.pairwise_cons.1 h
    rw [put]
    split
    · rename_i hlt
      refine List.pairwise_cons.2 ⟨fun entry hentry => ?_, ih hrest⟩
      rcases mem_put hentry with rfl | hentry
      · exact hlt
      · exact hfirst entry hentry
    split
    · rename_i heq
      exact List.pairwise_cons.2 ⟨fun entry hentry => heq ▸ hfirst entry hentry, hrest⟩
    · rename_i hlt hne
      have hkey : key < first.1 := lt_of_le_of_ne (not_lt.1 hlt) (Ne.symm hne)
      refine List.pairwise_cons.2 ⟨fun entry hentry => ?_, h⟩
      rcases List.mem_cons.1 hentry with rfl | hentry
      · exact hkey
      · exact hkey.trans (hfirst entry hentry)

theorem ordered_concat (members : List (String × α)) (entry : String × α) :
    ordered (members ++ [entry]) = put (ordered members) entry.1 entry.2 := by
  rw [ordered, List.foldl_append]
  rfl

theorem ascending_ordered (members : List (String × α)) : Ascending (ordered members) := by
  induction members using List.reverseRecOn with
  | nil => exact List.Pairwise.nil
  | append_singleton before last ih =>
    rw [ordered_concat]
    exact ascending_put ih last.1 last.2

theorem mem_ordered (h : entry ∈ ordered members) : entry ∈ members := by
  induction members using List.reverseRecOn with
  | nil => exact h
  | append_singleton before last ih =>
    rw [ordered_concat] at h
    rcases mem_put h with rfl | h
    · exact List.mem_append_right _ List.mem_cons_self
    · exact List.mem_append_left _ (ih h)

/-- A key past all others comes last. -/
theorem put_append (h : ∀ entry ∈ members, entry.1 < key) :
    put members key value = members ++ [(key, value)] := by
  induction members with
  | nil => rfl
  | cons first rest ih =>
    rw [put, if_pos (h first List.mem_cons_self),
      ih fun entry hentry => h entry (List.mem_cons_of_mem _ hentry), List.cons_append]

/-- Members in the order of their keys stay as they are. -/
theorem ordered_eq_self (h : Ascending members) : ordered members = members := by
  induction members using List.reverseRecOn with
  | nil => rfl
  | append_singleton before last ih =>
    obtain ⟨hbefore, _, hlast⟩ := List.pairwise_append.1 h
    rw [ordered_concat, ih hbefore]
    exact put_append fun entry hentry => hlast entry hentry last List.mem_cons_self

/-- A new key adds its member and keeps the others. -/
theorem put_perm (h : key ∉ members.map Prod.fst) :
    (put members key value).Perm ((key, value) :: members) := by
  induction members with
  | nil => exact .refl _
  | cons first rest ih =>
    rw [List.map_cons, List.mem_cons, not_or] at h
    rw [put]
    split
    · exact ((ih h.2).cons first).trans (.swap _ _ _)
    split
    · rename_i heq
      exact absurd heq.symm h.1
    · exact .refl _

/-- Members with distinct keys all stay. -/
theorem ordered_perm (h : (members.map Prod.fst).Nodup) : (ordered members).Perm members := by
  induction members using List.reverseRecOn with
  | nil => exact .refl _
  | append_singleton before last ih =>
    rw [List.map_append, List.map_singleton, List.nodup_append] at h
    obtain ⟨hbefore, _, hdisjoint⟩ := h
    have hperm := ih hbefore
    have hnew : last.1 ∉ (ordered before).map Prod.fst := by
      intro hmem
      have hkey : last.1 ∈ before.map Prod.fst := (hperm.map Prod.fst).mem_iff.1 hmem
      exact hdisjoint last.1 hkey last.1 List.mem_cons_self rfl
    rw [ordered_concat]
    exact (put_perm hnew).trans
      ((hperm.cons last).trans (List.perm_append_singleton last before).symm)

/-- Members in any order have one order of their keys. -/
theorem ordered_eq_of_perm {written : List (String × α)} (h : Ascending members)
    (hperm : written.Perm members) : ordered written = members := by
  have hnodup : (written.map Prod.fst).Nodup := (hperm.map Prod.fst).nodup_iff.2 h.nodup
  refine List.Perm.eq_of_pairwise (fun first second _ _ hlt hgt => ?_) (ascending_ordered written) h
    ((ordered_perm hnodup).trans hperm)
  exact absurd (String.lt_trans hlt hgt) (String.lt_irrefl _)

end

/-! ### Canonical values -/

mutual

/-- The members of every object in the value are in the order of their keys. -/
def Canonical : Json → Prop
  | array items => AllCanonical items
  | object members => Ascending members ∧ MembersCanonical members
  | _ => True

/-- All items are canonical. -/
def AllCanonical : List Json → Prop
  | [] => True
  | item :: rest => Canonical item ∧ AllCanonical rest

/-- The values of all members are canonical. -/
def MembersCanonical : List (String × Json) → Prop
  | [] => True
  | (_, value) :: rest => Canonical value ∧ MembersCanonical rest

end

theorem membersCanonical_iff {members : List (String × Json)} :
    MembersCanonical members ↔ ∀ entry ∈ members, entry.2.Canonical := by
  induction members with
  | nil => simp [MembersCanonical]
  | cons entry rest ih => simp [MembersCanonical, ih]

mutual

/-- A canonical value is read from its structure. -/
theorem value?_spelling {json : Json} (h : json.Canonical) : json.spelling.value? = some json := by
  cases json with
  | array items => rw [spelling, Spelling.value?, itemValues?_spellings h, Option.map_some]
  | object members =>
    rw [spelling, Spelling.value?, memberValues?_memberSpellings h.2, Option.map_some, ofMembers,
      ordered_eq_self h.1]
  | _ => rfl

theorem itemValues?_spellings {items : List Json} (h : AllCanonical items) :
    Spelling.itemValues? (spellings items) = some items := by
  cases items with
  | nil => rfl
  | cons item rest =>
    rw [spellings, Spelling.itemValues?, value?_spelling h.1, itemValues?_spellings h.2]
    rfl

theorem memberValues?_memberSpellings {members : List (String × Json)} (h : MembersCanonical members) :
    Spelling.memberValues? (memberSpellings members) = some members := by
  cases members with
  | nil => rfl
  | cons member rest =>
    rw [memberSpellings, Spelling.memberValues?, value?_spelling h.1,
      memberValues?_memberSpellings h.2]
    rfl

end

mutual

/-- What is read is canonical. -/
theorem canonical_of_value? {written : Spelling} {json : Json} (h : written.value? = some json) :
    json.Canonical := by
  cases written with
  | array items =>
    obtain ⟨values, hvalues, rfl⟩ := Option.map_eq_some_iff.1 h
    exact allCanonical_of_itemValues? hvalues
  | object members =>
    obtain ⟨values, hvalues, rfl⟩ := Option.map_eq_some_iff.1 h
    refine ⟨ascending_ordered values, membersCanonical_iff.2 fun entry hentry => ?_⟩
    exact membersCanonical_iff.1 (membersCanonical_of_memberValues? hvalues) entry
      (mem_ordered hentry)
  | unreadable => cases h
  | _ =>
    cases h
    trivial

theorem allCanonical_of_itemValues? {items : List Spelling} {values : List Json}
    (h : Spelling.itemValues? items = some values) : AllCanonical values := by
  cases items with
  | nil =>
    cases h
    trivial
  | cons item rest =>
    obtain ⟨value, hvalue, h⟩ := Option.bind_eq_some_iff.1 h
    obtain ⟨others, hothers, h⟩ := Option.bind_eq_some_iff.1 h
    cases h
    exact ⟨canonical_of_value? hvalue, allCanonical_of_itemValues? hothers⟩

theorem membersCanonical_of_memberValues? {members : List (Option String × Spelling)}
    {values : List (String × Json)} (h : Spelling.memberValues? members = some values) :
    MembersCanonical values := by
  cases members with
  | nil =>
    cases h
    trivial
  | cons member rest =>
    obtain ⟨name, value⟩ := member
    obtain ⟨key, _, h⟩ := Option.bind_eq_some_iff.1 h
    obtain ⟨value, hvalue, h⟩ := Option.bind_eq_some_iff.1 h
    obtain ⟨others, hothers, h⟩ := Option.bind_eq_some_iff.1 h
    cases h
    exact ⟨canonical_of_value? hvalue, membersCanonical_of_memberValues? hothers⟩

end

/-! ### Fields of objects -/

theorem memberSpellings_eq_map (members : List (String × Json)) :
    memberSpellings members = members.map fun entry => (some entry.1, entry.2.spelling) := by
  induction members with
  | nil => rfl
  | cons entry rest ih => rw [memberSpellings, ih, List.map_cons]

/-- The member of a name that no other member has. -/
theorem filter_eq_singleton {members : List (String × Json)} {entry : String × Json}
    (h : (members.map Prod.fst).Nodup) (hentry : entry ∈ members) :
    members.filter (fun other => other.1 == entry.1) = [entry] := by
  induction members with
  | nil => cases hentry
  | cons first rest ih =>
    obtain ⟨hfirst, hrest⟩ := List.nodup_cons.1 h
    rcases List.mem_cons.1 hentry with rfl | hentry
    · have hnone : rest.filter (fun other => other.1 == entry.1) = [] := by
        refine List.filter_eq_nil_iff.2 fun other hother heq => hfirst ?_
        exact beq_iff_eq.1 heq ▸ List.mem_map_of_mem hother
      rw [List.filter_cons, if_pos (beq_self_eq_true _), hnone]
    · have hne : ¬ (first.1 == entry.1) = true := by
        intro heq
        exact hfirst (beq_iff_eq.1 heq ▸ List.mem_map_of_mem hentry)
      rw [List.filter_cons, if_neg hne, ih hrest hentry]

theorem entryOf?_map {members : List (String × Json)} {entry : String × Json} (write : Json → Spelling)
    (h : (members.map Prod.fst).Nodup) (hentry : entry ∈ members) :
    Spelling.entryOf? (members.map fun other => (some other.1, write other.2)) entry.1 =
      some (.given (write entry.2)) := by
  have hfilter : (members.map fun other => (some other.1, write other.2)).filter
      (fun member => member.1 == some entry.1) = [(some entry.1, write entry.2)] := by
    rw [List.filter_map]
    have hsame : ((fun member => member.1 == some entry.1) ∘ fun other : String × Json =>
        (some other.1, write other.2)) = fun other => other.1 == entry.1 := rfl
    rw [hsame, filter_eq_singleton h hentry]
    rfl
  rw [Spelling.entryOf?, hfilter]

/-- The value under a key that no other member has. -/
theorem find?_of_mem {members : List (String × Json)} {key : String} {value : Json}
    (h : (members.map Prod.fst).Nodup) (hmem : (key, value) ∈ members) :
    find? members key = some value := by
  induction members with
  | nil => cases hmem
  | cons first rest ih =>
    obtain ⟨hfirst, hrest⟩ := List.nodup_cons.1 h
    rcases List.mem_cons.1 hmem with rfl | hmem
    · exact if_pos rfl
    · have hne : first.1 ≠ key := fun heq => hfirst (heq ▸ List.mem_map_of_mem hmem)
      rw [find?, if_neg hne, ih hrest hmem]

/-- A field of a record that is read is what a member gives that has its name. -/
theorem entryOf?_of_mem {members : List (String × Json)} {name : String} {value : Json} {entry : Entry}
    (h : Spelling.entryOf? (memberSpellings members) name = some entry)
    (hmem : (name, value) ∈ members) : entry = .given value.spelling := by
  have hfound : (some name, value.spelling) ∈
      (memberSpellings members).filter fun member => member.1 == some name := by
    rw [memberSpellings_eq_map]
    exact List.mem_filter.2 ⟨List.mem_map_of_mem hmem, beq_self_eq_true _⟩
  rw [Spelling.entryOf?] at h
  split at h
  · rename_i heq
    rw [heq] at hfound
    cases hfound
  · rename_i member heq
    rw [heq, List.mem_singleton] at hfound
    rw [← hfound] at h
    exact (Option.some.inj h).symm
  · cases h

/-- The entries of a record are those of its field names. -/
theorem entryOf?_of_entries? {members : List (String × Json)} {names : List String}
    {entries : List Entry} (h : (object members).spelling.entries? names = some entries) :
    names.map (Spelling.entryOf? (memberSpellings members)) = entries.map some := by
  have hentries : names.mapM (Spelling.entryOf? (memberSpellings members)) = some entries := by
    rw [spelling, Spelling.entries?] at h
    split at h
    · exact h
    · cases h
  clear h
  induction names generalizing entries with
  | nil =>
    cases hentries
    rfl
  | cons name rest ih =>
    rw [List.mapM_cons] at hentries
    obtain ⟨entry, hentry, hentries⟩ := Option.bind_eq_some_iff.1 hentries
    obtain ⟨others, hothers, hentries⟩ := Option.bind_eq_some_iff.1 hentries
    cases hentries
    rw [List.map_cons, List.map_cons, hentry, ih hothers]

/-- An object with members of distinct names, in any order, has them as its fields. -/
theorem entries?_of_perm {members fields : List (String × Json)} (write : Json → Spelling)
    (hperm : members.Perm fields) (h : (fields.map Prod.fst).Nodup) :
    (Spelling.object (members.map fun entry => (some entry.1, write entry.2))).entries?
        (fields.map Prod.fst) = some (fields.map fun entry => .given (write entry.2)) := by
  have hnodup : (members.map Prod.fst).Nodup := (hperm.map Prod.fst).nodup_iff.2 h
  have hnamed : ((members.map fun entry => (some entry.1, write entry.2)).all
      fun member => member.1.isSome) = true := by simp
  rw [Spelling.entries?, if_pos hnamed, List.mapM_map]
  exact mapM_eq_some_map fun entry hentry => entryOf?_map write hnodup (hperm.mem_iff.2 hentry)

/-- An object that is built from members with distinct names has them as its fields. -/
theorem entries?_ofMembers (members : List (String × Json)) (h : (members.map Prod.fst).Nodup) :
    (ofMembers members).spelling.entries? (members.map Prod.fst) =
      some (members.map fun entry => .given entry.2.spelling) := by
  rw [ofMembers, spelling, memberSpellings_eq_map]
  exact entries?_of_perm spelling (ordered_perm h) h

theorem spellings_eq_map (items : List Json) : spellings items = items.map spelling := by
  induction items with
  | nil => rfl
  | cons item rest ih => rw [spellings, ih, List.map_cons]

section

variable {read? : Spelling → Option α} {p : α → Prop}

/-- Entries under ascending keys are read from the object that is written for them, in any order. -/
theorem members?_written (write : α → Json) {entries written : List (String × α)}
    (h : Ascending entries) (hperm : written.Perm entries)
    (hread : ∀ entry ∈ entries, read? (write entry.2).spelling = some entry.2) :
    (object (written.map fun entry => (entry.1, write entry.2))).spelling.members? read? =
      some entries := by
  have hmembers : (memberSpellings (written.map fun entry => (entry.1, write entry.2))).mapM
      (fun member => do return (← member.1, ← read? member.2)) = some written := by
    rw [memberSpellings_eq_map, List.map_map, List.mapM_map]
    refine (mapM_eq_some_map (g := id) fun entry hentry => ?_).trans (by rw [List.map_id])
    show (read? (write entry.2).spelling >>= fun value => pure (entry.1, value)) = some entry
    rw [hread entry (hperm.mem_iff.1 hentry)]
    rfl
  rw [spelling, Spelling.members?, hmembers, Option.bind_eq_bind, Option.bind_some,
    ordered_eq_of_perm h hperm]
  rfl

/-- The members of a canonical object are read from it. -/
theorem members?_values {members : List (String × Json)} (h : (object members).Canonical) :
    (object members).spelling.members? Spelling.value? = some members := by
  have hread : ∀ entry ∈ members, entry.2.spelling.value? = some entry.2 :=
    fun entry hentry => value?_spelling (membersCanonical_iff.1 h.2 entry hentry)
  have hmembers := members?_written id h.1 (.refl _) hread
  rwa [show (fun entry : String × Json => (entry.1, id entry.2)) = id from rfl, List.map_id]
    at hmembers

/-- Items are read from the array of what is written for them. -/
theorem items?_written {items : List α} {written : List Json}
    (h : List.Forall₂ (fun item json => read? json.spelling = some item) items written) :
    (array written).spelling.items? read? = some items := by
  rw [spelling, Spelling.items?, spellings_eq_map, List.mapM_map]
  induction h with
  | nil => rfl
  | cons hitem _ ih =>
    rw [List.mapM_cons, ih, Function.comp_apply, hitem]
    rfl

end

namespace Entry

variable {read? : Spelling → Option α} {p : α → Prop}

theorem optional?_given {written : Spelling} (hnull : written ≠ .null) :
    (Entry.given written).optional? read? = (read? written).map some := by
  unfold optional?
  split
  · rename_i heq
    exact absurd (Entry.given.inj heq) hnull
  · rename_i heq
    rw [Entry.given.inj heq]
  · rename_i heq
    cases heq
  · rename_i heq
    cases heq

/-- A field that may be missing is read from what is written for it. -/
theorem optional?_ofOption (write : α → Json) {field : Option α}
    (hread : ∀ value ∈ field, read? (write value).spelling = some value)
    (hnull : ∀ value, (write value).spelling ≠ .null) :
    (Entry.given (ofOption (field.map write)).spelling).optional? read? = some field := by
  cases field with
  | none => rfl
  | some value =>
    refine (optional?_given (hnull value)).trans ?_
    rw [hread value rfl, Option.map_some]

end Entry

end Audience.Json
