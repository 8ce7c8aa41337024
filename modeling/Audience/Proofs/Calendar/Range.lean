import Audience.Calendar.Timestamp
import Audience.Proofs.Text.Digits

/-!
# The instants that are read are in the calendar range

An instant may stand for a leap second in the last second of the calendar range, whose milliseconds
are past it. No instant that is read does: a timestamp has a year of four digits, a day alone and a
number of milliseconds have no leap second.

* **`Timestamp.inCalendar_of_strict?`**, **`Timestamp.inCalendar_of_day?`**,
  **`Instant.inCalendar_of_ofMillis?`**: the milliseconds of what is read are in the calendar range.
-/

namespace Audience

/-! ### Instants -/

namespace Instant

variable {instant : Instant}

theorem inCalendar_of_nano (h : instant.nano < 1000000000) : InCalendar instant.millis := by
  have hrange := instant.in_range
  rw [InCalendar, millis]
  omega

theorem inCalendar_of_second (h : instant.second < lastSecond) : InCalendar instant.millis := by
  have hrange := instant.in_range
  have hnano := instant.nano_lt
  rw [InCalendar, millis]
  omega

theorem ofSecond?_eq_some {second : Int} {nano : Nat} (h : ofSecond? second nano = some instant) :
    instant.second = second ∧ instant.nano = nano := by
  rw [ofSecond?] at h
  split at h
  · cases h
    exact ⟨rfl, rfl⟩
  · cases h

theorem inCalendar_of_ofMillis? {millis : Int} (h : ofMillis? millis = some instant) :
    InCalendar instant.millis := by
  obtain ⟨_, hnano⟩ := ofSecond?_eq_some h
  refine inCalendar_of_nano ?_
  rw [hnano]
  omega

end Instant

/-! ### Timestamps -/

namespace Timestamp

theorem number?_lt {least most value : Nat} {text rest : List Char}
    (h : number? least most text = some (value, rest)) : value < 10 ^ most := by
  unfold number? at h
  dsimp only at h
  split at h
  · cases h
  · cases h
    have hdigits : ∀ c ∈ (text.take most).takeWhile Char.isDigit, c.isDigit = true :=
      List.all_eq_true.1 List.all_takeWhile
    have hlength : ((text.take most).takeWhile Char.isDigit).length ≤ most := by
      have := (List.takeWhile_sublist Char.isDigit (l := text.take most)).length_le
      rw [List.length_take] at this
      omega
    have hvalue := Text.digitsValue_lt hdigits 0
    rw [Nat.zero_add, Nat.one_mul] at hvalue
    exact Nat.lt_of_lt_of_le hvalue (Nat.pow_le_pow_right (by omega) hlength)

/-- An offset is less than a day. -/
theorem offset?_bounds {between : List Char → Option (List Char)} {text rest : List Char}
    {offset : Int} (h : offset? between text = some (offset, rest)) :
    -1440 < offset ∧ offset < 1440 := by
  unfold offset? at h
  split at h
  · cases h
    omega
  · cases h
    omega
  · simp only [Option.bind_eq_bind, Option.bind_eq_some_iff] at h
    obtain ⟨⟨sign, _⟩, hsign, ⟨hours, _⟩, _, _, _, ⟨minutes, _⟩, _, h⟩ := h
    have hunit : sign = 1 ∨ sign = -1 := by
      unfold sign? at hsign
      split at hsign <;> cases hsign <;> omega
    split at h
    · rename_i hbounds
      cases h
      simp only [Bool.and_eq_true, decide_eq_true_eq] at hbounds
      obtain rfl | rfl := hunit <;> omega
    · cases h

theorem monthLength_le (year : Int) (month : Nat) : Date.monthLength year month ≤ 31 := by
  rw [Date.monthLength]
  split
  · split <;> omega
  · split <;> omega

/-- The days up to a year of four digits. -/
theorem dayNumber_lt {date : Date} (hvalid : date.IsValid) (hyear : date.year ≤ 9999) :
    date.dayNumber < 3000000 := by
  obtain ⟨_, hmonth, _, hday⟩ := hvalid
  have hlength := monthLength_le date.year date.month
  simp only [Date.dayNumber, Date.daysBeforeYear, Date.daysBeforeMonth, Date.epochOffset]
  split <;> omega

/-- What makes fields an instant. -/
theorem Fields.instant?_eq_some {fields : Fields} {offset : Int} {instant : Instant}
    (h : fields.instant? offset = some instant) :
    fields.date.IsValid ∧ fields.hour < 24 ∧ fields.minute < 60 ∧
      instant.second = 86400 * fields.date.dayNumber +
        (3600 * fields.hour + 60 * fields.minute + min fields.second 59 : Nat) - 60 * offset ∧
      instant.nano = if fields.second = 60 then fields.nano + 1000000000 else fields.nano := by
  rw [Fields.instant?] at h
  split at h
  · rename_i hvalid
    obtain ⟨hdate, _, hhour, hminute, _⟩ := hvalid
    obtain ⟨hsecond, hnano⟩ := Instant.ofSecond?_eq_some h
    exact ⟨hdate, hhour, hminute, by omega, hnano⟩
  · cases h

/-- The year of a timestamp has four digits. -/
theorem strict?_eq_some {text : List Char} {instant : Instant} (h : strict? text = some instant) :
    ∃ (fields : Fields) (offset : Int), fields.date.year ≤ 9999 ∧ -1440 < offset ∧
      fields.instant? offset = some instant := by
  -- the fields and the marks between them, in the order of the text
  obtain ⟨⟨year, _⟩, hyear, h⟩ := Option.bind_eq_some_iff.1 h
  obtain ⟨_, _, h⟩ := Option.bind_eq_some_iff.1 h
  obtain ⟨⟨month, _⟩, _, h⟩ := Option.bind_eq_some_iff.1 h
  obtain ⟨_, _, h⟩ := Option.bind_eq_some_iff.1 h
  obtain ⟨⟨day, _⟩, _, h⟩ := Option.bind_eq_some_iff.1 h
  obtain ⟨_, _, h⟩ := Option.bind_eq_some_iff.1 h
  obtain ⟨⟨hour, _⟩, _, h⟩ := Option.bind_eq_some_iff.1 h
  obtain ⟨_, _, h⟩ := Option.bind_eq_some_iff.1 h
  obtain ⟨⟨minute, _⟩, _, h⟩ := Option.bind_eq_some_iff.1 h
  obtain ⟨_, _, h⟩ := Option.bind_eq_some_iff.1 h
  obtain ⟨⟨second, _⟩, _, h⟩ := Option.bind_eq_some_iff.1 h
  obtain ⟨⟨nano, _⟩, _, h⟩ := Option.bind_eq_some_iff.1 h
  obtain ⟨⟨offset, _⟩, hoffset, h⟩ := Option.bind_eq_some_iff.1 h
  obtain ⟨_, _, h⟩ := Option.bind_eq_some_iff.1 h
  have hlt : year < 10 ^ 4 := number?_lt hyear
  exact ⟨_, offset, by simp only; omega, (offset?_bounds hoffset).1, h⟩

theorem inCalendar_of_strict? {text : List Char} {instant : Instant}
    (h : strict? text = some instant) : InCalendar instant.millis := by
  obtain ⟨fields, offset, hyear, hoffset, hinstant⟩ := strict?_eq_some h
  obtain ⟨hdate, hhour, hminute, hsecond, _⟩ := Fields.instant?_eq_some hinstant
  have hday := dayNumber_lt hdate hyear
  have hlast : lastSecond = 8210266876799 := rfl
  refine Instant.inCalendar_of_second ?_
  omega

theorem inCalendar_of_day? {text : List Char} {instant : Instant}
    (h : day? text = some instant) : InCalendar instant.millis := by
  obtain ⟨⟨year, _⟩, _, h⟩ := Option.bind_eq_some_iff.1 h
  obtain ⟨_, _, h⟩ := Option.bind_eq_some_iff.1 h
  obtain ⟨⟨month, _⟩, _, h⟩ := Option.bind_eq_some_iff.1 h
  obtain ⟨_, _, h⟩ := Option.bind_eq_some_iff.1 h
  obtain ⟨⟨day, _⟩, _, h⟩ := Option.bind_eq_some_iff.1 h
  obtain ⟨_, _, h⟩ := Option.bind_eq_some_iff.1 h
  obtain ⟨_, _, _, _, hnano⟩ := Fields.instant?_eq_some h
  refine Instant.inCalendar_of_nano ?_
  simp [hnano]

end Timestamp

end Audience
