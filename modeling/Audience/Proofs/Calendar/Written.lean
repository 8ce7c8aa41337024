import Audience.Proofs.Calendar.DayNumber
import Audience.Proofs.Calendar.Range
import Audience.Proofs.Outcome
import Audience.Proofs.Text.Digits

/-!
# Written instants read back

The RFC 3339 form of an instant has fields of fixed width and marks between them, the year aside, which
is wider and has a sign where four digits are not enough. Each field is read off the front of the text
in turn, and the date and the time of day give the second that they were taken from.

* **`Timestamp.number?_append`**, **`Timestamp.field?_padded`**: rows of digits in front of a text.
* **`Timestamp.year?_yearText`**, **`Timestamp.fraction?_fractionText`**: years and fractions.
* **`Timestamp.instant?_fieldsOf`**: the fields of an instant.
* **`Timestamp.lenient?_text`**: every instant is read back from its text, leap seconds included.
-/

namespace Audience.Timestamp

variable {least most width n : Nat} {front rest : List Char}

/-! ### Rows of digits -/

theorem isDigit_of_mem_padded {c : Char} (h : c ∈ padded width n) : c.isDigit = true := by
  rw [padded, List.mem_append] at h
  exact h.elim Text.isDigit_of_mem_zeros Text.isDigit_of_mem_toDigits

theorem digitsValue_padded (width n : Nat) : Text.digitsValue 0 (padded width n) = n := by
  rw [padded, Text.digitsValue_zeros_append, Text.digitsValue_toDigits]

theorem le_length_padded (width n : Nat) : width ≤ (padded width n).length := by
  rw [padded, List.length_append, List.length_replicate]
  omega

theorem length_padded (hwidth : 0 < width) (hn : n < 10 ^ width) : (padded width n).length = width := by
  have hdigits := (Nat.length_toDigits_le_iff (by decide) hwidth).2 hn
  rw [padded, List.length_append, List.length_replicate]
  omega

/-- A row of digits at the front of a text, if it is as long as can be or no digit follows. -/
theorem number?_append (hfront : ∀ c ∈ front, c.isDigit = true) (hleast : least ≤ front.length)
    (hmost : front.length ≤ most)
    (hrest : front.length = most ∨ ∀ c ∈ rest.head?, c.isDigit = false) :
    number? least most (front ++ rest) = some (Text.digitsValue 0 front, rest) := by
  have htaken : ((front ++ rest).take most).takeWhile Char.isDigit = front := by
    rw [List.take_append, List.take_of_length_le hmost, List.takeWhile_append_of_pos hfront]
    have hnone : (rest.take (most - front.length)).takeWhile Char.isDigit = [] := by
      rcases hrest with hlength | hrest
      · rw [hlength, Nat.sub_self, List.take_zero, List.takeWhile_nil]
      · cases rest with
        | nil => rw [List.take_nil, List.takeWhile_nil]
        | cons c rest =>
          cases most - front.length with
          | zero => rfl
          | succ k => rw [List.take_succ_cons, List.takeWhile_cons_of_neg (by simp [hrest c rfl])]
    rw [hnone, List.append_nil]
  simp only [number?, htaken]
  rw [if_neg (by omega), List.drop_left]

theorem number?_padded (hwidth : 0 < width) (hn : n < 10 ^ width) (hleast : least ≤ width) :
    number? least width (padded width n ++ rest) = some (n, rest) := by
  have hlength := length_padded hwidth hn
  rw [number?_append (fun c => isDigit_of_mem_padded) (by omega) (by omega) (.inl hlength),
    digitsValue_padded]

/-! ### Blanks -/

theorem isBlank_eq_false_of_isDigit {c : Char} (h : c.isDigit = true) : Text.isBlank c = false := by
  have hrange : 0x30 ≤ c.toNat ∧ c.toNat ≤ 0x39 := by
    simpa [Char.isDigit, UInt32.le_iff_toNat_le] using h
  simp [Text.isBlank, Text.CharSet.has, Text.blanks]
  omega

/-- There are no blanks in front of a row of digits. -/
theorem dropBlanks_append (hfront : ∀ c ∈ front, c.isDigit = true) (hne : front ≠ []) :
    Text.dropBlanks (front ++ rest) = front ++ rest := by
  obtain ⟨c, front, rfl⟩ := List.exists_cons_of_ne_nil hne
  have hc := isBlank_eq_false_of_isDigit (hfront c List.mem_cons_self)
  rw [Text.dropBlanks, List.cons_append, List.dropWhile_cons_of_neg (by simp [hc])]

theorem padded_ne_nil (hwidth : 0 < width) : padded width n ≠ [] := by
  intro h
  have hlength := le_length_padded width n
  rw [h, List.length_nil] at hlength
  omega

/-! ### Fields -/

theorem field?_padded (hn : n < 100) : field? (padded 2 n ++ rest) = some (n, rest) := by
  rw [field?, dropBlanks_append (fun c => isDigit_of_mem_padded) (padded_ne_nil (by decide))]
  exact number?_padded (by decide) hn (by decide)

/-- A year without a sign has at most four digits. -/
theorem year?_of_digits (hfront : ∀ c ∈ front, c.isDigit = true) (hne : front ≠ []) :
    year? (front ++ rest) =
      (number? 1 4 (front ++ rest)).map fun (value, left) => ((value : Int), left) := by
  obtain ⟨c, front, rfl⟩ := List.exists_cons_of_ne_nil hne
  have hc : c.isDigit = true := hfront c List.mem_cons_self
  rw [year?, dropBlanks_append hfront hne]
  split
  · rename_i heq
    rw [(List.cons.inj heq).1] at hc
    cases hc
  · rename_i heq
    rw [(List.cons.inj heq).1] at hc
    cases hc
  · rfl

/-- A year is read back in front of a dash. -/
theorem year?_yearText (year : Int) : year? (yearText year ++ '-' :: rest) = some (year, '-' :: rest) := by
  have hdash : ∀ c ∈ ('-' :: rest).head?, c.isDigit = false := by
    intro c hc
    cases hc
    rfl
  rw [yearText]
  split
  · rename_i hyear
    have hsize : year.toNat < 10 ^ 4 := by omega
    rw [year?_of_digits (fun c => isDigit_of_mem_padded) (padded_ne_nil (by decide)),
      number?_padded (by decide) hsize (by decide), Option.map_some]
    simp only [Int.toNat_of_nonneg hyear.1]
  · -- behind a sign all digits count
    have hsigned : number? 1 (padded 4 year.natAbs ++ '-' :: rest).length
        (padded 4 year.natAbs ++ '-' :: rest) = some (year.natAbs, '-' :: rest) := by
      have hlength := le_length_padded 4 year.natAbs
      rw [number?_append (fun c => isDigit_of_mem_padded) (by omega)
        (by rw [List.length_append]; omega) (.inr hdash), digitsValue_padded]
    rw [List.cons_append]
    split
    · have hminus : ∀ text, year? ('-' :: text) = (number? 1 text.length text).map
          fun (value, left) => (-(value : Int), left) := fun _ => rfl
      have hyear : -(year.natAbs : Int) = year := by omega
      rw [hminus, hsigned, Option.map_some]
      simp only [hyear]
    · have hplus : ∀ text, year? ('+' :: text) = (number? 1 text.length text).map
          fun (value, left) => ((value : Int), left) := fun _ => rfl
      have hyear : (year.natAbs : Int) = year := by omega
      rw [hplus, hsigned, Option.map_some]
      simp only [hyear]

theorem fraction?_point (hfront : ∀ c ∈ front, c.isDigit = true) (hne : front ≠ [])
    (hlength : front.length ≤ 9) (hrest : ∀ c ∈ rest.head?, c.isDigit = false) :
    fraction? ('.' :: front ++ rest) =
      some (Text.digitsValue 0 front * 10 ^ (9 - front.length), rest) := by
  have hpos := List.length_pos_iff.2 hne
  have hleft : rest.dropWhile Char.isDigit = rest := by
    cases rest with
    | nil => rfl
    | cons c rest => exact List.dropWhile_cons_of_neg (by simp [hrest c rfl])
  have hplaces : (front ++ rest).length - rest.length = front.length := by
    rw [List.length_append, Nat.add_sub_cancel]
  show (do
    let (value, left) ← number? 1 9 (front ++ rest)
    let places := (front ++ rest).length - left.length
    return (value * 10 ^ (9 - places), left.dropWhile Char.isDigit)) = _
  rw [number?_append hfront hpos hlength (.inr hrest)]
  simp only [Option.bind_eq_bind, Option.bind_some, hplaces, hleft]
  rfl

/-- A fraction is read back in front of what is no digit. -/
theorem fraction?_fractionText {nano : Nat} (hnano : nano < 1000000000)
    (hrest : ∀ c ∈ rest.head?, c.isDigit = false) (hpoint : rest.head? ≠ some '.') :
    fraction? (fractionText nano ++ rest) = some (nano, rest) := by
  -- the groups of three digits that are written, and the digits that are left out
  have hwritten : ∀ width size, 0 < width → width ≤ 9 → size < 10 ^ width →
      fraction? ('.' :: padded width size ++ rest) = some (size * 10 ^ (9 - width), rest) := by
    intro width size hwidth hnine hsize
    have hlength := length_padded hwidth hsize
    rw [fraction?_point (fun c => isDigit_of_mem_padded) (padded_ne_nil hwidth) (by omega) hrest,
      digitsValue_padded, hlength]
  rw [fractionText]
  split
  · rename_i hzero
    rw [hzero, List.nil_append]
    unfold fraction?
    split
    · exact absurd rfl hpoint
    · rfl
  split
  · rw [hwritten 3 _ (by decide) (by decide) (by omega)]
    congr 2
    omega
  split
  · rw [hwritten 6 _ (by decide) (by decide) (by omega)]
    congr 2
    omega
  · rw [hwritten 9 _ (by decide) (by decide) hnano]
    congr 2
    omega

/-! ### The fields of an instant -/

/-- The fields of an instant in UTC. A leap second is the second 60 of its minute. -/
def fieldsOf (instant : Instant) : Fields :=
  let ofDay := (instant.second % 86400).toNat
  ⟨Date.ofDayNumber (instant.second / 86400), ofDay / 3600, ofDay / 60 % 60,
    ofDay % 60 + instant.nano / 1000000000, instant.nano % 1000000000⟩

theorem inRange_of_instant (instant : Instant) :
    (Date.ofDayNumber (instant.second / 86400)).InRange := by
  have hrange := instant.in_range
  have hstart : firstSecond = -8334601228800 := rfl
  have hend : lastSecond = 8210266876799 := rfl
  have hfirst : Date.dayNumber ⟨Date.firstYear, 1, 1⟩ = -96465292 := by decide
  have hlast : Date.dayNumber ⟨Date.lastYear, 12, 31⟩ = 95026236 := by decide
  exact Date.inRange_ofDayNumber (by omega) (by omega)

theorem ofSecond?_self (instant : Instant) :
    Instant.ofSecond? instant.second instant.nano = some instant :=
  dif_pos ⟨instant.in_range, instant.nano_lt, instant.leap⟩

/-- The fields of an instant are those of no other. -/
theorem instant?_fieldsOf (instant : Instant) : (fieldsOf instant).instant? 0 = some instant := by
  have hvalid := Date.isValid_ofDayNumber (instant.second / 86400)
  have hrange := inRange_of_instant instant
  have hnano := instant.nano_lt
  have hleap := instant.leap
  obtain ⟨ofDay, hofDay⟩ : ∃ ofDay : Nat, instant.second % 86400 = ofDay :=
    Int.eq_ofNat_of_zero_le (by omega)
  have hsecond : 86400 * (instant.second / 86400) + (3600 * (ofDay / 3600) +
      60 * (ofDay / 60 % 60) + min (ofDay % 60 + instant.nano / 1000000000) 59 : Nat) - 60 * 0 =
        instant.second := by omega
  have hwhole : (if ofDay % 60 + instant.nano / 1000000000 = 60 then
      instant.nano % 1000000000 + 1000000000 else instant.nano % 1000000000) = instant.nano := by
    split <;> omega
  simp only [fieldsOf, Fields.instant?, Date.dayNumber_ofDayNumber, hofDay, Int.toNat_natCast]
  rw [if_pos ⟨hvalid, hrange, by omega, by omega, by omega⟩, hsecond, hwhole]
  exact ofSecond?_self instant

/-! ### Timestamps -/

/-- The text of fields in UTC. -/
def Fields.text (fields : Fields) : List Char :=
  yearText fields.date.year ++ '-' :: (padded 2 fields.date.month ++
    '-' :: (padded 2 fields.date.day ++ 'T' :: (padded 2 fields.hour ++
      ':' :: (padded 2 fields.minute ++ ':' :: (padded 2 fields.second ++
        (fractionText fields.nano ++ ['Z']))))))

theorem text_eq (instant : Instant) : text instant = (fieldsOf instant).text := by
  simp only [text, fieldsOf, Fields.text, List.append_assoc, List.cons_append]

/-- The fields that a text of two digits for each has room for. -/
structure Fields.Written (fields : Fields) : Prop where
  month : fields.date.month < 100
  day : fields.date.day < 100
  hour : fields.hour < 100
  minute : fields.minute < 100
  second : fields.second < 100
  nano : fields.nano < 1000000000

theorem written_fieldsOf (instant : Instant) : (fieldsOf instant).Written := by
  obtain ⟨_, hmonth, _, hday⟩ := Date.isValid_ofDayNumber (instant.second / 86400)
  have hlength := monthLength_le (Date.ofDayNumber (instant.second / 86400)).year
    (Date.ofDayNumber (instant.second / 86400)).month
  have hnano := instant.nano_lt
  constructor <;> simp only [fieldsOf] <;> omega

/-- What is read off the front of a text in UTC, one field after the other. -/
theorem lenient?_of_readings {fields : Fields}
    {whole afterYear afterMonth afterDay afterHour afterMinute afterSecond : List Char}
    (hyear : year? whole = some (fields.date.year, '-' :: afterYear))
    (hmonth : field? afterYear = some (fields.date.month, '-' :: afterMonth))
    (hday : field? afterMonth = some (fields.date.day, 'T' :: afterDay))
    (hhour : field? afterDay = some (fields.hour, ':' :: afterHour))
    (hminute : field? afterHour = some (fields.minute, ':' :: afterMinute))
    (hsecond : field? afterMinute = some (fields.second, afterSecond))
    (hnano : fraction? afterSecond = some (fields.nano, ['Z'])) :
    lenient? whole = fields.instant? 0 := by
  have hdash : ∀ rest, afterBlanksAnd? '-' ('-' :: rest) = some rest := fun _ => rfl
  have hcolon : ∀ rest, afterBlanksAnd? ':' (':' :: rest) = some rest := fun _ => rfl
  have hseparator : ∀ rest, afterSeparator? ('T' :: rest) = some rest := fun _ => rfl
  have hzone : Text.dropBlanks ['Z'] = ['Z'] := by decide
  have hutc : afterUtc? ['Z'] = none := by decide
  -- one field at a time, since what follows a field depends on the text it leaves
  rw [lenient?, hyear, some_bind]
  dsimp only
  rw [hdash, some_bind, hmonth, some_bind]
  dsimp only
  rw [hdash, some_bind, hday, some_bind]
  dsimp only
  rw [hseparator, some_bind, hhour, some_bind]
  dsimp only
  rw [hcolon, some_bind, hminute, some_bind]
  dsimp only
  rw [hcolon, some_bind, hsecond, some_bind]
  dsimp only
  rw [hnano, some_bind]
  dsimp only
  rw [hzone, hutc]
  rfl

/-- Fields are read back from their text. -/
theorem lenient?_fields {fields : Fields} (h : fields.Written) :
    lenient? fields.text = fields.instant? 0 := by
  have hend : ∀ c ∈ ['Z'].head?, c.isDigit = false := by
    intro c hc
    cases hc
    rfl
  exact lenient?_of_readings (year?_yearText _) (field?_padded h.month) (field?_padded h.day)
    (field?_padded h.hour) (field?_padded h.minute) (field?_padded h.second)
    (fraction?_fractionText h.nano hend (by decide))

/-- Every instant is read back from its text. -/
theorem lenient?_text (instant : Instant) : lenient? (text instant) = some instant := by
  rw [text_eq, lenient?_fields (written_fieldsOf instant), instant?_fieldsOf]

end Audience.Timestamp
