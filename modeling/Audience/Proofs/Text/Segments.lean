import Audience.Text.Segments
import Mathlib.Logic.Basic

/-!
# Segments and marks

* **`Text.segments_ne_nil`**: every text has a segment.
* **`Text.not_mem_of_mem_segments`**: the mark stands in none of the segments.
* **`Text.segments_joined`**: texts joined by the mark have the segments of each.
* **`Text.eq_of_segments_eq_singleton`**: a text with one segment is that segment.
* **`Text.segments_eq_cons`**: the first segment is what stands in front of the first mark, and the
  others are the segments of what stands behind it.
-/

namespace Audience.Text

variable {mark : Char}

/-! ### Segments between marks -/

theorem charSegments_ne_nil (text : List Char) : charSegments mark text ≠ [] := by
  cases text with
  | nil => exact List.cons_ne_nil _ _
  | cons c rest =>
    rw [charSegments]
    split
    · exact List.cons_ne_nil _ _
    · split
      · exact List.cons_ne_nil _ _
      · exact List.cons_ne_nil _ _

theorem not_mem_of_mem_charSegments (text : List Char) :
    ∀ segment ∈ charSegments mark text, mark ∉ segment := by
  induction text with
  | nil => simp [charSegments]
  | cons c rest ih =>
    intro segment hsegment
    rw [charSegments] at hsegment
    split at hsegment
    · rename_i hnil
      exact absurd hnil (charSegments_ne_nil rest)
    · rename_i first others hcons
      rw [hcons] at ih
      have hfirst : mark ∉ first := ih first List.mem_cons_self
      split at hsegment
      · rw [List.mem_cons] at hsegment
        rcases hsegment with rfl | hsegment
        · exact List.not_mem_nil
        · exact ih segment hsegment
      · rename_i hne
        rw [List.mem_cons] at hsegment
        rcases hsegment with rfl | hsegment
        · rw [List.mem_cons, not_or]
          exact ⟨fun h => hne h.symm, hfirst⟩
        · exact ih segment (List.mem_cons_of_mem _ hsegment)

theorem segments_ne_nil (text : String) : segments mark text ≠ [] := by
  rw [segments]
  intro h
  rw [List.map_eq_nil_iff] at h
  exact charSegments_ne_nil _ h

theorem not_mem_of_mem_segments {text segment : String} (h : segment ∈ segments mark text) :
    mark ∉ segment.toList := by
  obtain ⟨chars, hchars, rfl⟩ := List.mem_map.1 h
  rw [String.toList_ofList]
  exact not_mem_of_mem_charSegments _ chars hchars

/-! ### Segments of joined texts -/

theorem charSegments_mark (back : List Char) :
    charSegments mark (mark :: back) = [] :: charSegments mark back := by
  rw [charSegments]
  cases hback : charSegments mark back with
  | nil => exact absurd hback (charSegments_ne_nil back)
  | cons first others => exact if_pos rfl

theorem charSegments_joined (front back : List Char) :
    charSegments mark (front ++ mark :: back) =
      charSegments mark front ++ charSegments mark back := by
  induction front with
  | nil => exact charSegments_mark back
  | cons c front ih =>
    rw [List.cons_append, charSegments, charSegments, ih]
    cases hfront : charSegments mark front with
    | nil => exact absurd hfront (charSegments_ne_nil front)
    | cons first others =>
      rw [List.cons_append]
      dsimp only
      split <;> rfl

theorem charSegments_of_not_mem {text : List Char} (h : mark ∉ text) :
    charSegments mark text = [text] := by
  induction text with
  | nil => rfl
  | cons c rest ih =>
    rw [List.mem_cons, not_or] at h
    obtain ⟨hne, hrest⟩ := h
    rw [charSegments, ih hrest]
    exact if_neg fun heq => hne heq.symm

theorem segments_joined (front back : String) :
    segments mark (front ++ String.singleton mark ++ back) =
      segments mark front ++ segments mark back := by
  rw [segments, segments, segments, ← List.map_append, ← charSegments_joined]
  simp

theorem eq_of_charSegments_eq_singleton {text segment : List Char}
    (h : charSegments mark text = [segment]) : segment = text := by
  induction text generalizing segment with
  | nil =>
    cases h
    rfl
  | cons c rest ih =>
    rw [charSegments] at h
    cases hrest : charSegments mark rest with
    | nil => exact absurd hrest (charSegments_ne_nil rest)
    | cons first others =>
      rw [hrest] at h
      dsimp only at h
      split at h
      · cases h
      · cases h
        rw [ih hrest]

theorem eq_of_segments_eq_singleton {text segment : String} (h : segments mark text = [segment]) :
    segment = text := by
  rw [segments, List.map_eq_singleton_iff] at h
  obtain ⟨chars, hchars, rfl⟩ := h
  rw [eq_of_charSegments_eq_singleton hchars, String.ofList_toList]

/-! ### The first mark -/

/-- What stands in front of the first mark. -/
def front (mark : Char) (text : String) : String :=
  String.ofList (text.toList.takeWhile (· != mark))

/-- What stands behind the first mark, if there is one. -/
def back? (mark : Char) (text : String) : Option String :=
  (text.toList.dropWhile (· != mark)).tail?.map String.ofList

theorem segments_eq_cons (text : String) :
    segments mark text = front mark text :: ((back? mark text).map (segments mark)).getD [] := by
  rw [segments, front, back?]
  have hsplit := List.takeWhile_append_dropWhile (p := (· != mark)) (l := text.toList)
  have hfront : mark ∉ text.toList.takeWhile (· != mark) := by
    intro hmem
    have hall : (text.toList.takeWhile (· != mark)).all (· != mark) = true := List.all_takeWhile
    have := List.all_eq_true.1 hall mark hmem
    simp at this
  generalize text.toList.takeWhile (· != mark) = front at hsplit hfront
  cases hback : text.toList.dropWhile (· != mark) with
  | nil =>
    rw [hback, List.append_nil] at hsplit
    rw [← hsplit, charSegments_of_not_mem hfront]
    rfl
  | cons c back =>
    have hc : c = mark := by
      have hhead := List.head_dropWhile_not (· != mark) (l := text.toList) (by simp [hback])
      simpa [hback] using hhead
    rw [hback, hc] at hsplit
    rw [← hsplit, charSegments_joined, charSegments_of_not_mem hfront]
    simp [segments]

end Audience.Text
