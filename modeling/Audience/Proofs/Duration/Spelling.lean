import Audience.Proofs.Duration.Numeral

/-!
# Durations as they are spelled

* **`Duration.Slot`**, **`Duration.rowChars`**: amounts that may be missing, each with its mark, one
  behind the other. **`Duration.part_slot`**: the first of them is read and the others are left.
* **`Duration.Spelling`**: the grammar of durations. **`Duration.Spelling.ofChars?_chars`** and
  **`Duration.Spelling.exists_of_ofChars?`**: what it spells is what is read.
* **`Duration.reads_spellings`**: the texts that are durations, that each of them is spelled in one way
  only, and the duration that the spelling stands for.
-/

namespace Audience.Duration

/-! ### Amounts that may be missing -/

/-- A written amount, or none. -/
abbrev Slot := Option Numeral

/-- The characters of an amount with its mark, if it is written. -/
def slotChars (mark : Char) : Slot → List Char
  | none => []
  | some n => n.chars ++ [mark]

/-- The magnitude that is read for an amount. -/
def slotAmount : Slot → Magnitude
  | none => .zero
  | some n => amount n.whole.1 n.places

/-- The magnitude that an amount stands for, which is zero if it is missing. -/
def SlotDenotes : Slot → Magnitude → Prop
  | none, size => size = .zero
  | some n, size => n.Denotes size

/-- The characters of amounts in a row, each with its mark. -/
def rowChars (row : List (Char × Slot)) : List Char := row.flatMap fun slot => slotChars slot.1 slot.2

/-- The marks of a row are different ones, and each ends an amount. -/
structure Marks (row : List (Char × Slot)) : Prop where
  nodup : (row.map Prod.fst).Nodup
  ends : ∀ mark ∈ row.map Prod.fst, Ends mark

section Rows

variable {n : Numeral} {mark : Char} {slot slot' : Slot} {size : Magnitude}
variable {row row' : List (Char × Slot)} {text rest behind behind' : List Char}

theorem slotDenotes_iff : SlotDenotes slot size ↔ slotAmount slot = size := by
  cases slot with
  | none => exact eq_comm
  | some n => exact n.denotes_iff

theorem part_chars (hmark : Ends mark) :
    part mark (n.chars ++ mark :: rest) = (amount n.whole.1 n.places, rest) := by
  rw [part, Numeral.number?_chars hmark]
  exact if_pos rfl

theorem part_of_missing (h : ∀ (n : Numeral) rest, text ≠ n.chars ++ mark :: rest) :
    part mark text = (.zero, text) := by
  rw [part]
  split
  · rename_i c rest hnumber
    obtain ⟨n, htext⟩ := Numeral.exists_of_number? hnumber
    split
    · rename_i hc
      rw [hc] at htext
      exact absurd htext (h n rest)
    · rfl
  · rfl

/-- Reading an amount splits it off. -/
theorem exists_slot (h : part mark text = (size, rest)) :
    ∃ slot, text = slotChars mark slot ++ rest := by
  rw [part] at h
  split at h
  · rename_i c behind hnumber
    obtain ⟨n, htext⟩ := Numeral.exists_of_number? hnumber
    split at h
    · rename_i hc
      refine ⟨some n, ?_⟩
      rw [slotChars, htext, hc, List.append_assoc, ← (Prod.mk.inj h).2]
      rfl
    · exact ⟨none, (Prod.mk.inj h).2⟩
  · exact ⟨none, (Prod.mk.inj h).2⟩

/-! ### Amounts in a row -/

theorem Marks.tail (h : Marks ((mark, slot) :: row)) : Marks row where
  nodup := (List.nodup_cons.1 h.nodup).2
  ends mark hmem := h.ends mark (List.mem_cons_of_mem _ hmem)

theorem Marks.head (h : Marks ((mark, slot) :: row)) : Ends mark := h.ends mark List.mem_cons_self

theorem Marks.not_mem (h : Marks ((mark, slot) :: row)) : mark ∉ row.map Prod.fst :=
  (List.nodup_cons.1 h.nodup).1

theorem Marks.congr (h : Marks row) (hsame : row.map Prod.fst = row'.map Prod.fst) : Marks row' where
  nodup := hsame ▸ h.nodup
  ends := hsame ▸ h.ends

theorem rowChars_none : rowChars ((mark, none) :: row) ++ behind = rowChars row ++ behind := rfl

theorem rowChars_some : rowChars ((mark, some n) :: row) ++ behind =
    n.chars ++ mark :: (rowChars row ++ behind) := by
  simp [rowChars, slotChars]

/-- An amount at the front of a row has one of the row's marks. -/
theorem mark_mem (hmark : Ends mark) (hrow : Marks row) (hbehind : NoDigitAhead behind)
    (h : rowChars row ++ behind = n.chars ++ mark :: rest) : mark ∈ row.map Prod.fst := by
  induction row with
  | nil =>
    have hread : number? (n.chars ++ mark :: rest) = some ((n.whole.1, n.places), mark :: rest) :=
      Numeral.number?_chars hmark
    rw [← h] at hread
    cases (Numeral.number?_eq_none hbehind).symm.trans hread
  | cons slot row ih =>
    obtain ⟨first, _ | n'⟩ := slot
    · exact List.mem_cons_of_mem _ (ih hrow.tail h)
    · rw [rowChars_some] at h
      obtain ⟨-, rfl, -⟩ := Numeral.append_inj hrow.head hmark h
      exact List.mem_cons_self

/-- Behind an amount that is missing, none with its mark follows. -/
theorem Marks.missing (hrow : Marks ((mark, slot) :: row)) (hbehind : NoDigitAhead behind)
    (n : Numeral) (rest : List Char) : rowChars row ++ behind ≠ n.chars ++ mark :: rest := by
  intro h
  exact hrow.not_mem (mark_mem hrow.head hrow.tail hbehind h)

/-- The first amount of a row is read, and the others are left. -/
theorem part_slot (hrow : Marks ((mark, slot) :: row)) (hbehind : NoDigitAhead behind) :
    part mark (rowChars ((mark, slot) :: row) ++ behind) =
      (slotAmount slot, rowChars row ++ behind) := by
  cases slot with
  | none => exact part_of_missing (hrow.missing hbehind)
  | some n =>
    rw [rowChars_some]
    exact part_chars hrow.head

/-- A text starts with one row at most of the same marks. -/
theorem rowChars_append_inj (hrow : Marks row) (hsame : row.map Prod.fst = row'.map Prod.fst)
    (hbehind : NoDigitAhead behind) (hbehind' : NoDigitAhead behind')
    (h : rowChars row ++ behind = rowChars row' ++ behind') : row = row' ∧ behind = behind' := by
  induction row generalizing row' with
  | nil =>
    obtain rfl : row' = [] := List.map_eq_nil_iff.1 hsame.symm
    exact ⟨rfl, h⟩
  | cons first row ih =>
    have hrow' := hrow.congr hsame
    match first, row' with
    | (mark, slot), (mark', slot') :: row' =>
      obtain ⟨hmark, hrest⟩ := List.cons.inj hsame
      obtain rfl : mark = mark' := hmark
      match slot, slot' with
      | none, none =>
        obtain ⟨rfl, hrests⟩ := ih hrow.tail hrest h
        exact ⟨rfl, hrests⟩
      | none, some n =>
        rw [rowChars_none, rowChars_some] at h
        exact absurd h (hrow.missing hbehind n _)
      | some n, none =>
        rw [rowChars_none, rowChars_some] at h
        exact absurd h.symm (hrow'.missing hbehind' n _)
      | some n, some n' =>
        rw [rowChars_some, rowChars_some] at h
        obtain ⟨rfl, -, h⟩ := Numeral.append_inj hrow.head hrow.head h
        obtain ⟨rfl, hrests⟩ := ih hrow.tail hrest h
        exact ⟨rfl, hrests⟩

end Rows

/-! ### The grammar -/

/-- A written sign. -/
inductive Sign
  | plus
  | minus
  deriving DecidableEq

/-- The characters of a sign, if it is written. -/
def signChars : Option Sign → List Char
  | none => []
  | some .plus => ['+']
  | some .minus => ['-']

/-- The amounts below days. -/
structure Clock where
  hours : Slot
  minutes : Slot
  seconds : Slot

/-- The amounts below days with their marks, in the order of writing. -/
def Clock.row (c : Clock) : List (Char × Slot) := [('H', c.hours), ('M', c.minutes), ('S', c.seconds)]

/-- The characters of the amounts below days, if a `T` is written for them. -/
def clockChars : Option Clock → List Char
  | none => []
  | some c => 'T' :: rowChars c.row

/-- A duration as it is spelled. -/
structure Spelling where
  sign : Option Sign
  years : Slot
  months : Slot
  weeks : Slot
  days : Slot
  clock : Option Clock

namespace Spelling

/-- The amounts from years to days with their marks, in the order of writing. -/
def row (s : Spelling) : List (Char × Slot) :=
  [('Y', s.years), ('M', s.months), ('W', s.weeks), ('D', s.days)]

/-- The characters of a spelling. -/
def chars (s : Spelling) : List Char :=
  signChars s.sign ++ 'P' :: (rowChars s.row ++ clockChars s.clock)

/-- The text of a spelling. -/
def text (s : Spelling) : String := String.ofList s.chars

/-- The amount of hours. -/
def hours (s : Spelling) : Slot := s.clock.bind Clock.hours

/-- The amount of minutes. -/
def minutes (s : Spelling) : Slot := s.clock.bind Clock.minutes

/-- The amount of seconds. -/
def seconds (s : Spelling) : Slot := s.clock.bind Clock.seconds

/-- The duration that is read for a spelling. -/
def duration (s : Spelling) : Duration where
  positive := decide (s.sign ≠ some .minus)
  years := slotAmount s.years
  months := slotAmount s.months
  weeks := slotAmount s.weeks
  days := slotAmount s.days
  hours := slotAmount s.hours
  minutes := slotAmount s.minutes
  seconds := slotAmount s.seconds

/-- The duration that a spelling stands for. -/
structure Denotes (s : Spelling) (d : Duration) : Prop where
  positive : d.positive = false ↔ s.sign = some .minus
  years : SlotDenotes s.years d.years
  months : SlotDenotes s.months d.months
  weeks : SlotDenotes s.weeks d.weeks
  days : SlotDenotes s.days d.days
  hours : SlotDenotes s.hours d.hours
  minutes : SlotDenotes s.minutes d.minutes
  seconds : SlotDenotes s.seconds d.seconds

variable {s s' : Spelling} {d : Duration}

theorem denotes_duration (s : Spelling) : s.Denotes s.duration where
  positive := by simp [duration]
  years := slotDenotes_iff.2 rfl
  months := slotDenotes_iff.2 rfl
  weeks := slotDenotes_iff.2 rfl
  days := slotDenotes_iff.2 rfl
  hours := slotDenotes_iff.2 rfl
  minutes := slotDenotes_iff.2 rfl
  seconds := slotDenotes_iff.2 rfl

theorem Denotes.duration_eq (h : s.Denotes d) : s.duration = d := by
  have hpositive : s.duration.positive = d.positive := by
    have hsign := h.positive
    cases hread : d.positive <;> simpa [duration, hread] using hsign
  obtain ⟨positive, years, months, weeks, days, hours, minutes, seconds⟩ := d
  rw [duration, Duration.mk.injEq]
  exact ⟨hpositive, slotDenotes_iff.1 h.years, slotDenotes_iff.1 h.months, slotDenotes_iff.1 h.weeks,
    slotDenotes_iff.1 h.days, slotDenotes_iff.1 h.hours, slotDenotes_iff.1 h.minutes,
    slotDenotes_iff.1 h.seconds⟩

theorem denotes_iff : s.Denotes d ↔ s.duration = d := by
  constructor
  · exact Denotes.duration_eq
  · rintro rfl
    exact s.denotes_duration

end Spelling

/-! ### Reading what is spelled -/

theorem Clock.marks (c : Clock) : Marks c.row where
  nodup := show ['H', 'M', 'S'].Nodup by decide
  ends := by
    simp only [Clock.row, List.map_cons, List.map_nil, List.forall_mem_cons]
    exact ⟨by decide, by decide, by decide, nofun⟩

theorem Spelling.marks (s : Spelling) : Marks s.row where
  nodup := show ['Y', 'M', 'W', 'D'].Nodup by decide
  ends := by
    simp only [Spelling.row, List.map_cons, List.map_nil, List.forall_mem_cons]
    exact ⟨by decide, by decide, by decide, by decide, nofun⟩

theorem noDigitAhead_clock (clock : Option Clock) : NoDigitAhead (clockChars clock) := by
  cases clock with
  | none => exact .nil
  | some clock => exact .cons (by decide)

theorem clock?_row (c : Clock) (d : Duration) : clock? d ('T' :: rowChars c.row) =
    some { d with
      hours := slotAmount c.hours
      minutes := slotAmount c.minutes
      seconds := slotAmount c.seconds } := by
  have hend := NoDigitAhead.nil
  rw [clock?, ← List.append_nil (rowChars c.row), Clock.row]
  simp only [part_slot c.marks hend, part_slot c.marks.tail hend, part_slot c.marks.tail.tail hend]
  rfl

theorem body?_chars (s : Spelling) : body? (decide (s.sign ≠ some .minus))
    (rowChars s.row ++ clockChars s.clock) = some s.duration := by
  have hend := noDigitAhead_clock s.clock
  rw [body?, Spelling.row]
  simp only [part_slot s.marks hend, part_slot s.marks.tail hend, part_slot s.marks.tail.tail hend,
    part_slot s.marks.tail.tail.tail hend]
  obtain ⟨sign, years, months, weeks, days, _ | clock⟩ := s
  · rfl
  · exact clock?_row clock _

theorem sign_signChars (written : Option Sign) (rest : List Char) :
    sign (signChars written ++ 'P' :: rest) = (decide (written ≠ some .minus), 'P' :: rest) := by
  obtain _ | _ | _ := written <;> rfl

/-- What is spelled is read. -/
theorem Spelling.ofChars?_chars (s : Spelling) : ofChars? s.chars = some s.duration := by
  rw [ofChars?, Spelling.chars, sign_signChars]
  exact body?_chars s

/-! ### Spelling what is read -/

theorem exists_sign {positive : Bool} {text rest : List Char} (h : sign text = (positive, rest)) :
    ∃ written, text = signChars written ++ rest := by
  unfold sign at h
  split at h <;> obtain ⟨-, rfl⟩ := Prod.mk.inj h
  · exact ⟨some .plus, rfl⟩
  · exact ⟨some .minus, rfl⟩
  · exact ⟨none, rfl⟩

theorem exists_clock {d d' : Duration} {text : List Char} (h : clock? d text = some d') :
    ∃ clock, text = clockChars clock := by
  unfold clock? at h
  split at h
  · exact ⟨none, rfl⟩
  · rename_i text
    split at h
    rename_i afterHours hhours
    split at h
    rename_i afterMinutes hminutes
    split at h
    rename_i afterSeconds hseconds
    split at h
    · rename_i hend
      obtain ⟨hours, rfl⟩ := exists_slot hhours
      obtain ⟨minutes, rfl⟩ := exists_slot hminutes
      obtain ⟨seconds, rfl⟩ := exists_slot hseconds
      refine ⟨some ⟨hours, minutes, seconds⟩, ?_⟩
      rw [List.isEmpty_iff.1 hend]
      rfl
    · cases h
  · cases h

theorem exists_body {d : Duration} {positive : Bool} {text : List Char} (written : Option Sign)
    (h : body? positive text = some d) : ∃ s : Spelling, s.sign = written ∧
      text = rowChars s.row ++ clockChars s.clock := by
  unfold body? at h
  split at h
  rename_i afterYears hyears
  split at h
  rename_i afterMonths hmonths
  split at h
  rename_i afterWeeks hweeks
  split at h
  rename_i afterDays hdays
  obtain ⟨years, rfl⟩ := exists_slot hyears
  obtain ⟨months, rfl⟩ := exists_slot hmonths
  obtain ⟨weeks, rfl⟩ := exists_slot hweeks
  obtain ⟨days, rfl⟩ := exists_slot hdays
  obtain ⟨clock, rfl⟩ := exists_clock h
  refine ⟨⟨written, years, months, weeks, days, clock⟩, rfl, ?_⟩
  simp [rowChars, Spelling.row]

/-- What is read is spelled. -/
theorem Spelling.exists_of_ofChars? {d : Duration} {text : List Char} (h : ofChars? text = some d) :
    ∃ s : Spelling, text = s.chars := by
  unfold ofChars? at h
  split at h
  · rename_i hsign
    obtain ⟨written, rfl⟩ := exists_sign hsign
    obtain ⟨s, rfl, rfl⟩ := exists_body written h
    exact ⟨s, rfl⟩
  · cases h

/-! ### One spelling -/

theorem signChars_inj {written written' : Option Sign} {rest rest' : List Char}
    (h : signChars written ++ 'P' :: rest = signChars written' ++ 'P' :: rest') :
    written = written' ∧ rest = rest' := by
  obtain _ | _ | _ := written <;> obtain _ | _ | _ := written' <;> simp_all [signChars]

theorem clockChars_injective : Function.Injective clockChars := by
  intro clock clock' h
  match clock, clock' with
  | none, none => rfl
  | none, some clock => cases h
  | some clock, none => cases h
  | some clock, some clock' =>
    have hrows : rowChars clock.row ++ [] = rowChars clock'.row ++ [] := by
      rw [(List.cons.inj h).2]
    have hsame : clock.row.map Prod.fst = clock'.row.map Prod.fst := rfl
    obtain ⟨hrow, -⟩ := rowChars_append_inj clock.marks hsame .nil .nil hrows
    obtain ⟨hours, minutes, seconds⟩ := clock
    cases hrow
    rfl

theorem Spelling.chars_injective : Function.Injective Spelling.chars := by
  intro s s' h
  obtain ⟨hsign, hrest⟩ := signChars_inj h
  have hsame : s.row.map Prod.fst = s'.row.map Prod.fst := rfl
  obtain ⟨hrow, hclocks⟩ := rowChars_append_inj s.marks hsame (noDigitAhead_clock s.clock)
    (noDigitAhead_clock s'.clock) hrest
  have hclock := clockChars_injective hclocks
  obtain ⟨sign, years, months, weeks, days, clock⟩ := s
  cases hsign
  cases hclock
  cases hrow
  rfl

theorem Spelling.ofText?_text (s : Spelling) : ofText? s.text = some s.duration := by
  rw [ofText?, Spelling.text, String.toList_ofList]
  exact s.ofChars?_chars

/-- A text is read exactly if it is spelled by the grammar: a sign or none, `P`, amounts of years, months,
weeks and days in this order, each of which may be missing, and perhaps `T` and such amounts of hours,
minutes and seconds. No text has two spellings. What is read is the duration that the spelling stands
for: towards earlier exactly if the sign is a minus, with the magnitude nearest to each written amount,
and zero for one that is missing, too large, or not in ASCII. -/
theorem reads_spellings :
    (∀ text, (ofText? text).isSome = true ↔ ∃ s : Spelling, s.text = text) ∧
      Function.Injective Spelling.text ∧
      ∀ (s : Spelling) (d : Duration), ofText? s.text = some d ↔ s.Denotes d := by
  refine ⟨fun text => ⟨?_, ?_⟩, ?_, fun s d => ?_⟩
  · intro h
    obtain ⟨d, hd⟩ := Option.isSome_iff_exists.1 h
    obtain ⟨s, hs⟩ := Spelling.exists_of_ofChars? hd
    refine ⟨s, ?_⟩
    rw [Spelling.text, ← hs, String.ofList_toList]
  · rintro ⟨s, rfl⟩
    rw [s.ofText?_text]
    rfl
  · intro s s' h
    exact Spelling.chars_injective (String.ofList_injective h)
  · rw [s.ofText?_text, Option.some.injEq]
    exact Spelling.denotes_iff.symm

-- digits that are not those of ASCII spell an amount, which counts as zero; a line end spells nothing
example : (ofText? "-P1٣D").map isZero = some true ∧ ofText? "P1D\n" = none := by decide +kernel

end Audience.Duration
