import Audience.Proofs.Duration.Whole
import Audience.Comparison

/-!
# Longer durations

Of two durations of whole amounts in one direction, the one whose amounts are all at least as large
leads at least as far, as long as it keeps up: wherever a move of the other one moves its instant, so
does its own. It falls behind where its own move is left out, because it would lead out of the calendar
range or because weeks past the largest number leave nothing to count hours from.

* **`Duration.KeepsUp`**: the condition, over the moves of both. **`Duration.Keeps`**,
  **`Duration.KeepsUp.related`**: a relation that each pair of moves keeps is kept by all of them.
* **`Duration.ahead_make_make`**: a pair of moves of which the second goes at least as far.
* **`Duration.longer_reaches_further`**: the result, and what it says about a length of time.
-/

namespace Audience.Duration

variable {d d' : Duration} {start a b : Int} {moves others rest otherRest : List Move}

/-! ### Keeping up -/

/-- Wherever one of some moves, made one after the other from `a`, moves its instant, the other move at
its place does too, made one after the other from `b`. -/
def KeepsUp : List Move → List Move → Int → Int → Prop
  | move :: moves, other :: others, a, b =>
      (Move.make a move = a ∨ Move.make b other ≠ b) ∧
        KeepsUp moves others (Move.make a move) (Move.make b other)
  | _, _, _, _ => True

/-- Keeping up can be told by making the moves. -/
def decidableKeepsUp : (moves others : List Move) → (a b : Int) → Decidable (KeepsUp moves others a b)
  | move :: moves, other :: others, a, b =>
      have := decidableKeepsUp moves others (Move.make a move) (Move.make b other)
      inferInstanceAs (Decidable (_ ∧ _))
  | [], _, _, _ => .isTrue trivial
  | _ :: _, [], _, _ => .isTrue trivial

instance (moves others : List Move) (a b : Int) : Decidable (KeepsUp moves others a b) :=
  decidableKeepsUp moves others a b

/-- A pair of moves keeps a relation between instants, if the second keeps up with the first. -/
def Keeps (R : Int → Int → Prop) (move other : Move) : Prop :=
  ∀ {a b}, R a b → (Move.make a move = a ∨ Move.make b other ≠ b) →
    R (Move.make a move) (Move.make b other)

variable {R : Int → Int → Prop}

/-- A relation that each pair of moves keeps is kept by all of them, and the rest keep up from there. -/
theorem KeepsUp.related (hpairs : List.Forall₂ (Keeps R) moves others)
    (hkeeps : KeepsUp (moves ++ rest) (others ++ otherRest) a b) (h : R a b) :
    R (moves.foldl Move.make a) (others.foldl Move.make b) ∧
      KeepsUp rest otherRest (moves.foldl Move.make a) (others.foldl Move.make b) := by
  -- on the pairs, from any two instants, since each pair leads to two others
  induction hpairs generalizing a b with
  | nil => exact ⟨h, hkeeps⟩
  | cons hpair _ ih => exact ih hkeeps.2 (hpair h hkeeps.1)

theorem KeepsUp.related_all (hpairs : List.Forall₂ (Keeps R) moves others)
    (hkeeps : KeepsUp moves others a b) (h : R a b) :
    R (moves.foldl Move.make a) (others.foldl Move.make b) := by
  have hall : KeepsUp (moves ++ []) (others ++ []) a b := by
    rwa [List.append_nil, List.append_nil]
  exact (KeepsUp.related hpairs hall h).1

/-! ### Pairs of moves -/

theorem make_inCalendar {move : Move} (h : InCalendar a) : InCalendar (Move.make a move) := by
  unfold Move.make
  split
  · assumption
  · exact h

theorem make_eq_target {move : Move} (h : Move.make a move ≠ a) :
    Move.make a move = Move.target a move := by
  unfold Move.make at *
  split at h
  · rename_i hrange
    exact if_pos hrange
  · exact absurd rfl h

/-- A pair of moves of which the second leads at least as far. -/
theorem ahead_make_make {move other : Move} (h : d.Ahead a b)
    (htarget : d.Ahead (Move.target a move) (Move.target b other)) (hother : d.Ahead 0 other.amount)
    (hkeeps : Move.make a move = a ∨ Move.make b other ≠ b) :
    d.Ahead (Move.make a move) (Move.make b other) := by
  by_cases hstays : Move.make a move = a
  · rw [hstays]
    exact h.trans (ahead_make hother)
  · rw [make_eq_target hstays, make_eq_target (hkeeps.resolve_left hstays)]
    exact htarget

theorem mod_make_months (a count : Int) : Move.make a (.months count) % dayMillis = a % dayMillis := by
  unfold Move.make
  split
  · exact mod_monthsOn a count
  · rfl

theorem foldl_make_inCalendar (h : InCalendar a) : InCalendar (moves.foldl Move.make a) := by
  induction moves generalizing a with
  | nil => exact h
  | cons move rest ih => exact ih (make_inCalendar h)

/-- More months lead at least as far, and both keep the time of day. -/
theorem keeps_months {count more : Int} (hmore : d.Ahead count more) (hzero : d.Ahead 0 more) :
    Keeps (fun a b => d.Ahead a b ∧ a % dayMillis = b % dayMillis) (.months count) (.months more) := by
  rintro a b ⟨hahead, htime⟩ hkeeps
  rw [mod_make_months, mod_make_months]
  exact ⟨ahead_make_make hahead (ahead_monthsOn hahead htime hmore) hzero hkeeps, htime⟩

/-- More milliseconds lead at least as far. -/
theorem keeps_millis {amount more : Int} (hmore : d.Ahead amount more) (hzero : d.Ahead 0 more) :
    Keeps (fun a b => d.Ahead a b ∧ InCalendar b) (.millis amount) (.millis more) := by
  rintro a b ⟨hahead, hrange⟩ hkeeps
  exact ⟨ahead_make_make hahead (ahead_add hahead hmore) hzero hkeeps, make_inCalendar hrange⟩

/-- With a move that stays where it is only such a move is kept up with. -/
theorem keeps_idle {move other : Move} (hidle : ∀ b, InCalendar b → Move.make b other = b) :
    Keeps (fun a b => d.Ahead a b ∧ InCalendar b) move other := by
  rintro a b ⟨hahead, hrange⟩ hkeeps
  have hstays := hidle b hrange
  rw [hkeeps.resolve_right (fun hmoves => hmoves hstays), hstays]
  exact ⟨hahead, hrange⟩

/-! ### Days past the largest number -/

theorem leftover_of_not_finite {amount : Binary64} (h : amount.isFinite = false) (scale : Binary64) :
    leftover amount scale = .nan := by
  cases amount with
  | nan => rfl
  | infinite negative => cases negative <;> rfl
  | finite negative size => cases h

theorem whole_of_not_finite {amount : Binary64} (h : amount.isFinite = false)
    (hunsigned : amount.Unsigned) : whole amount = 0 ∨ whole amount = Binary64.largestWord := by
  cases amount with
  | nan => exact .inl rfl
  | infinite negative =>
    cases hunsigned
    exact .inr rfl
  | finite negative size => cases h

theorem moveMillis_largestWord (d : Duration) (h : InCalendar a) :
    moveMillis a (d.directedMillis Binary64.largestWord dayMillis) = a := by
  have hleaves : ¬ InCalendar (a + d.directedMillis Binary64.largestWord dayMillis) := by
    rw [inCalendar_iff] at h ⊢
    unfold directedMillis directed Binary64.largestWord dayMillis
    split <;> omega
  exact if_neg hleaves

theorem length_clockMoves (d : Duration) (length : Nat) : (d.clockMoves length).length = 5 := rfl

/-- Days that cannot be counted lead out of the calendar range, and leave nothing to count hours, minutes
and seconds from. -/
theorem clockMoves_idle (h : d.IsWhole) (hinfinite : d.totalDays.isFinite = false) {length : Nat}
    (hlength : length ≤ 31) :
    ∀ move ∈ d.clockMoves length, ∀ b, InCalendar b → Move.make b move = b := by
  have hfromDays : leftover d.totalDays 24 = .nan := leftover_of_not_finite hinfinite 24
  have hhours : d.carriedHours length = .nan := by
    rw [carriedHours, carriedDays_eq h hlength, hfromDays]
    rfl
  have hminutes : d.carriedMinutes length = .nan := by
    rw [carriedMinutes, hhours]
    rfl
  have hseconds : d.carriedSeconds length = .nan := by
    rw [carriedSeconds, hminutes]
    rfl
  have hfromSeconds : leftover .nan 1000 = .nan := leftover_of_not_finite rfl 1000
  have hnothing : whole .nan = 0 := rfl
  have hstays : ∀ b, InCalendar b → Move.make b (.millis 0) = b := by
    intro b hb
    rw [Move.make_millis, moveMillis_eq (by rwa [Int.add_zero]), Int.add_zero]
  have hdays : ∀ b, InCalendar b →
      Move.make b (.millis (d.directedMillis (whole d.totalDays) dayMillis)) = b := by
    intro b hb
    obtain hzero | hlargest := whole_of_not_finite hinfinite d.unsigned_totalDays
    · rw [hzero, directedMillis_eq, Int.zero_mul, directed_zero]
      exact hstays b hb
    · rw [hlargest, Move.make_millis]
      exact moveMillis_largestWord d hb
  simp only [clockMoves, carriedDays_eq h hlength, hhours, hminutes, hseconds, hfromSeconds, hnothing,
    directedMillis_eq d 0, Int.zero_mul, directed_zero, List.forall_mem_cons]
  exact ⟨hdays, hstays, hstays, hstays, hstays, fun _ hmem => absurd hmem List.not_mem_nil⟩

/-! ### Durations of larger amounts -/

/-- The durations have one direction, and no amount of the first is larger than that of the second. -/
structure NoLonger (d d' : Duration) : Prop where
  direction : d.positive = d'.positive
  parts : List.Forall₂ (fun part other : Magnitude => part.quanta ≤ other.quanta) d.parts d'.parts

instance (d d' : Duration) : Decidable (d.NoLonger d') :=
  decidable_of_iff (d.positive = d'.positive ∧
      List.Forall₂ (fun part other : Magnitude => part.quanta ≤ other.quanta) d.parts d'.parts)
    ⟨fun h => ⟨h.1, h.2⟩, fun h => ⟨h.direction, h.parts⟩⟩

theorem toNat_mono {part other : Magnitude} (h : part.quanta ≤ other.quanta) :
    part.toNat ≤ other.toNat :=
  Nat.div_le_div_right h

theorem clampWord_mul_le {n k : Nat} {size : Int} (h : n ≤ k) (hsize : 0 ≤ size) :
    0 ≤ Binary64.clampWord n * size ∧ Binary64.clampWord n * size ≤ Binary64.clampWord k * size :=
  ⟨Int.mul_nonneg (Binary64.clampWord_nonneg (Int.natCast_nonneg n)) hsize,
    Int.mul_le_mul_of_nonneg_right (Binary64.clampWord_mono (Int.ofNat_le.2 h)) hsize⟩

namespace NoLonger

variable (h : d.NoLonger d')

include h

theorem directed_eq (units : Int) : d'.directed units = d.directed units := by
  rw [directed, directed, h.direction]

theorem parts_le : d.years.quanta ≤ d'.years.quanta ∧ d.months.quanta ≤ d'.months.quanta ∧
    d.weeks.quanta ≤ d'.weeks.quanta ∧ d.days.quanta ≤ d'.days.quanta ∧
    d.hours.quanta ≤ d'.hours.quanta ∧ d.minutes.quanta ≤ d'.minutes.quanta ∧
    d.seconds.quanta ≤ d'.seconds.quanta := by
  simpa [Duration.parts] using h.parts

theorem wholeDays_le : d.wholeDays ≤ d'.wholeDays := by
  obtain ⟨_, _, hweeks, hdays, _⟩ := h.parts_le
  have hproduct := Rounding.rounded_mono (Nat.mul_le_mul_right 7 (toNat_mono hweeks))
  exact Rounding.rounded_mono (Nat.add_le_add (toNat_mono hdays) hproduct)

theorem clockAmounts_le : List.Forall₂ (fun amount more => 0 ≤ amount ∧ amount ≤ more)
    d.clockAmounts d'.clockAmounts := by
  obtain ⟨_, _, _, _, hhours, hminutes, hseconds⟩ := h.parts_le
  exact .cons (clampWord_mul_le h.wholeDays_le (by decide))
    (.cons (clampWord_mul_le (toNat_mono hhours) (by decide))
    (.cons (clampWord_mul_le (toNat_mono hminutes) (by decide))
    (.cons (clampWord_mul_le (toNat_mono hseconds) (by decide))
    (.cons ⟨Int.le_refl 0, Int.le_refl 0⟩ .nil))))

variable (hwhole : d.IsWhole) (hwhole' : d'.IsWhole)

include hwhole hwhole'

/-- The days of the first can be counted if those of the second can. -/
theorem isFinite_totalDays (hfinite : d'.totalDays.isFinite = true) :
    d.totalDays.isFinite = true := by
  obtain ⟨_, _, hweeks, _⟩ := h.parts_le
  obtain ⟨hproduct, hsum⟩ := (isFinite_totalDays_iff hwhole').1 hfinite
  have hproductLe := Rounding.rounded_mono (Nat.mul_le_mul_right 7 (toNat_mono hweeks))
  refine (isFinite_totalDays_iff hwhole).2 ⟨?_, ?_⟩
  · exact Nat.lt_of_le_of_lt (Nat.mul_le_mul_right unit hproductLe) hproduct
  · exact Nat.lt_of_le_of_lt (Nat.mul_le_mul_right unit h.wholeDays_le) hsum

theorem keeps_monthMoves :
    List.Forall₂ (Keeps fun a b => d.Ahead a b ∧ a % dayMillis = b % dayMillis)
      d.monthMoves d'.monthMoves := by
  obtain ⟨hyears, hmonths, _⟩ := h.parts_le
  obtain ⟨hyearNonneg, hyearsLe⟩ := clampWord_mul_le (toNat_mono hyears) (by decide : (0 : Int) ≤ 12)
  have hyearsWord := Binary64.clampWord_mono hyearsLe
  have hyearsNonneg := Binary64.clampWord_nonneg hyearNonneg
  have hmonthsWord := Binary64.clampWord_mono (Int.ofNat_le.2 (toNat_mono hmonths))
  have hmonthsNonneg := Binary64.clampWord_nonneg (Int.natCast_nonneg d.months.toNat)
  rw [monthMoves_eq hwhole, monthMoves_eq hwhole', h.directed_eq, h.directed_eq]
  exact .cons (keeps_months (ahead_directed hyearsWord)
      (ahead_zero_directed (Int.le_trans hyearsNonneg hyearsWord)))
    (.cons (keeps_months (ahead_directed hmonthsWord)
      (ahead_zero_directed (Int.le_trans hmonthsNonneg hmonthsWord))) .nil)

/-- Days that can be counted move by what they are, and with days that cannot no move keeps up. -/
theorem keeps_clockMoves {length otherLength : Nat} (hlength : length ≤ 31)
    (hotherLength : otherLength ≤ 31) :
    List.Forall₂ (Keeps fun a b => d.Ahead a b ∧ InCalendar b)
      (d.clockMoves length) (d'.clockMoves otherLength) := by
  cases hfinite : d'.totalDays.isFinite with
  | true =>
    rw [clockMoves_eq hwhole (h.isFinite_totalDays hwhole hwhole' hfinite) hlength,
      clockMoves_eq hwhole' hfinite hotherLength, List.forall₂_map_left_iff,
      List.forall₂_map_right_iff]
    refine h.clockAmounts_le.imp ?_
    rintro amount more ⟨hnonneg, hle⟩
    rw [h.directed_eq]
    exact keeps_millis (ahead_directed hle) (ahead_zero_directed (Int.le_trans hnonneg hle))
  | false =>
    refine List.forall₂_iff_zip.2 ⟨by rw [length_clockMoves, length_clockMoves], ?_⟩
    intro move other hmem
    exact keeps_idle (clockMoves_idle hwhole' hfinite hotherLength other (List.of_mem_zip hmem).2)

/-- Of two durations the longer one leads at least as far where it keeps up. -/
theorem ahead_apply
    (hkeeps : InCalendar start → KeepsUp (d.route start) (d'.route start) start start) :
    d.Ahead (d.apply start) (d'.apply start) := by
  by_cases hstart : InCalendar start
  · rw [apply, apply, if_pos hstart, if_pos hstart, moves_eq_route, moves_eq_route, route, route,
      List.foldl_append, List.foldl_append]
    obtain ⟨⟨hmonths, _⟩, hclockKeeps⟩ := KeepsUp.related (h.keeps_monthMoves hwhole hwhole')
      (hkeeps hstart) ⟨ahead_refl d start, rfl⟩
    have hclock := KeepsUp.related_all
      (h.keeps_clockMoves hwhole hwhole' (monthLengthAt_le _) (monthLengthAt_le _)) hclockKeeps
      ⟨hmonths, foldl_make_inCalendar hstart⟩
    exact hclock.1
  · rw [apply, apply, if_neg hstart, if_neg hstart]
    exact ahead_refl d start

end NoLonger

/-- A duration whose amounts are all at least as large as those of another one in its direction leads
at least as far, if it keeps up with it. Then a length of time below the shorter one is below it, too. -/
theorem longer_reaches_further (d d' : Duration) (start : Int) (hwhole : d.IsWhole)
    (hwhole' : d'.IsWhole) (h : d.NoLonger d')
    (hkeeps : InCalendar start → KeepsUp (d.route start) (d'.route start) start start) :
    (d.positive = true → d.apply start ≤ d'.apply start ∧
      ∀ now upTo, Datum.order? now (.elapsed start upTo) (.duration d) = some .lt →
        Datum.order? now (.elapsed start upTo) (.duration d') = some .lt) ∧
    (d.positive = false → d'.apply start ≤ d.apply start) := by
  have hahead := h.ahead_apply hwhole hwhole' hkeeps
  constructor
  · intro hpositive
    have hle := (ahead_iff_le hpositive).1 hahead
    refine ⟨hle, ?_⟩
    intro now upTo hbelow
    have hlt : upTo < d.apply start := compare_lt_iff_lt.1 (Option.some.inj hbelow)
    exact congrArg some (compare_lt_iff_lt.2 (Int.lt_of_lt_of_le hlt hle))
  · intro hnegative
    exact (ahead_iff_ge hnegative).1 hahead

/-- The years of both are too many. -/
theorem two_months_reach_further : ∃ d d', ofText? "P300000Y1M" = some d ∧
    ofText? "P400000Y2M1D" = some d' ∧ d.IsWhole ∧ d'.IsWhole ∧ d.NoLonger d' ∧
    KeepsUp (d.route 0) (d'.route 0) 0 0 ∧ d.apply 0 ≤ d'.apply 0 ∧
    Datum.order? 0 (.elapsed 0 2600000000) (.duration d') = some .lt := by
  have hread : (ofText? "P300000Y1M").bind (fun d => (ofText? "P400000Y2M1D").map fun d' =>
      decide (d.IsWhole ∧ d'.IsWhole ∧ d.NoLonger d' ∧ KeepsUp (d.route 0) (d'.route 0) 0 0 ∧
        d.positive = true ∧ d.apply 0 = 2678400000)) = some true := by decide +kernel
  obtain ⟨d, htext, hrest⟩ := Option.bind_eq_some_iff.1 hread
  obtain ⟨d', htext', hdecided⟩ := Option.map_eq_some_iff.1 hrest
  obtain ⟨hwhole, hwhole', hlonger, hkeeps, hpositive, happly⟩ := of_decide_eq_true hdecided
  obtain ⟨hle, hbelow⟩ :=
    (longer_reaches_further d d' 0 hwhole hwhole' hlonger fun _ => hkeeps).1 hpositive
  refine ⟨d, d', htext, htext', hwhole, hwhole', hlonger, hkeeps, hle, hbelow 0 2600000000 ?_⟩
  have horder : Datum.order? 0 (.elapsed 0 2600000000) (.duration d) =
      some (compare 2600000000 (d.apply 0)) := rfl
  rw [horder, happly]
  rfl

/-- A billion days lead out of the calendar range, and are left out. -/
theorem billion_days_fall_behind : ∃ d d', ofText? "P1D" = some d ∧
    ofText? "P1000000000D" = some d' ∧ d.IsWhole ∧ d'.IsWhole ∧ d.NoLonger d' ∧
    d.positive = true ∧ d'.apply 0 < d.apply 0 ∧
    Datum.order? 0 (.elapsed 0 3600000) (.duration d) = some .lt ∧
    Datum.order? 0 (.elapsed 0 3600000) (.duration d') = some .gt := by
  have hread : (ofText? "P1D").bind (fun d => (ofText? "P1000000000D").map fun d' =>
      decide (d.IsWhole ∧ d'.IsWhole ∧ d.NoLonger d' ∧ d.positive = true ∧ d'.apply 0 < d.apply 0 ∧
        Datum.order? 0 (.elapsed 0 3600000) (.duration d) = some .lt ∧
        Datum.order? 0 (.elapsed 0 3600000) (.duration d') = some .gt)) = some true := by
    decide +kernel
  obtain ⟨d, htext, hrest⟩ := Option.bind_eq_some_iff.1 hread
  obtain ⟨d', htext', hdecided⟩ := Option.map_eq_some_iff.1 hrest
  exact ⟨d, d', htext, htext', of_decide_eq_true hdecided⟩

end Audience.Duration
