import Audience.Proofs.Duration.Spelling
import Audience.Proofs.Json.TextReading

/-!
# Durations read back from their text

* **`Duration.exists_numeral`**, **`Duration.exists_spelling`**: what is written for an amount and for a
  duration spells it.
* **`Duration.ofText?_text`**: the whole text.
* **`Duration.round_trip`**: the text, the JSON string and the text of that string.
-/

namespace Audience.Duration

/-- What is written for a magnitude spells it. -/
theorem exists_numeral (size : Magnitude) : ∃ n : Numeral,
    size.shortest.positional = n.chars ∧ amount n.whole.1 n.places = size := by
  obtain ⟨whole, places, hsplit⟩ := Decimal.exists_split size.shortest
  have hamount : amount whole places = size := by
    rw [amount, if_pos (List.all_eq_true.2 hsplit.isDigit), hsplit.nearest?_eq,
      Magnitude.shortest_reads_back]
    rfl
  have hdigits : ∀ c ∈ whole ++ places, Text.isDecimalDigit c = true :=
    fun c hc => Text.isDecimalDigit_of_isDigit (hsplit.isDigit c hc)
  have hwhole : ∀ c ∈ whole, Text.isDecimalDigit c = true :=
    fun c hc => hdigits c (List.mem_append_left places hc)
  have hplaces : ∀ c ∈ places, Text.isDecimalDigit c = true :=
    fun c hc => hdigits c (List.mem_append_right whole hc)
  cases places with
  | nil => exact ⟨⟨⟨whole, hwhole⟩, hsplit.whole_leads.ne_nil, none⟩, hsplit.text, hamount⟩
  | cons place places =>
    exact ⟨⟨⟨whole, hwhole⟩, hsplit.whole_leads.ne_nil, some (.point, ⟨place :: places, hplaces⟩)⟩,
      hsplit.text, hamount⟩

/-- What is written for a duration spells it. -/
theorem exists_spelling (d : Duration) : ∃ s : Spelling, d.chars = s.chars ∧ s.duration = d := by
  obtain ⟨positive, years, months, weeks, days, hours, minutes, seconds⟩ := d
  obtain ⟨years', hyears, rfl⟩ := exists_numeral years
  obtain ⟨months', hmonths, rfl⟩ := exists_numeral months
  obtain ⟨weeks', hweeks, rfl⟩ := exists_numeral weeks
  obtain ⟨days', hdays, rfl⟩ := exists_numeral days
  obtain ⟨hours', hhours, rfl⟩ := exists_numeral hours
  obtain ⟨minutes', hminutes, rfl⟩ := exists_numeral minutes
  obtain ⟨seconds', hseconds, rfl⟩ := exists_numeral seconds
  refine ⟨⟨some (if positive then .plus else .minus), some years', some months', some weeks',
    some days', some ⟨some hours', some minutes', some seconds'⟩⟩, ?_, ?_⟩
  · simp only [chars, partText, hyears, hmonths, hweeks, hdays, hhours, hminutes, hseconds]
    cases positive <;> simp [Spelling.chars, Spelling.row, Clock.row, signChars, rowChars, slotChars,
      clockChars]
  · cases positive <;> rfl

/-- The text of a duration reads back as the duration. -/
theorem ofText?_text (d : Duration) : ofText? d.text = some d := by
  obtain ⟨s, hchars, hduration⟩ := exists_spelling d
  rw [ofText?, text, String.toList_ofList, hchars, s.ofChars?_chars, hduration]

/-- Every duration reads back as itself, sign and amounts, whether it was read from a text or made from
a number of milliseconds: from its text, from its JSON string, and from the JSON text of that string. -/
theorem round_trip (d : Duration) :
    ofText? d.text = some d ∧ ofJson d.toJson = .ok d ∧
      ∃ json, Json.ofText? d.toJson.text = some json ∧ ofJson json = .ok d := by
  have hjson : ofJson d.toJson = .ok d := by
    rw [toJson, ofJson, ofText?_text]
  have hcanonical : d.toJson.Canonical := trivial
  have htext : Json.ofText? d.toJson.text = some d.toJson :=
    (Json.ofText?_text hcanonical).trans (if_pos (Nat.zero_le _))
  exact ⟨ofText?_text d, hjson, d.toJson, htext, hjson⟩

-- a comma, a point without places, and parts left out are not written again
example : (ofText? "-P1,50YT7.S").map text = some "-P1.5Y0M0W0DT0H0M7S" := by decide +kernel

end Audience.Duration
