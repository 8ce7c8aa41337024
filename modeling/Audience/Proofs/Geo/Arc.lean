import Audience.Proofs.Literal.Outcome
import Audience.Proofs.Numeric.Whole

/-!
# Boxes as arcs of the globe

Longitudes name meridians, and `-180` and `180` name the same one. Going east from the left edge of a
box, its meridians are those met no later than the right edge.

* **`Geo.Reaches`**, **`Geo.MetBy`**: which meridians are met on the way, and after what distance.
* **`Geo.eastward`**: the first such distance, and **`Geo.metBy_iff`**.
* **`Geo.metBy_of_le`**, **`Geo.metBy_of_lt`**: arcs in the order of longitudes, without the
  antimeridian inside and across it.
* **`Geo.Overlooked`**, **`Geo.contains_along_arc`**: a box holds its arc, but not the antimeridian under
  the other name than that of its edge.
-/

namespace Audience.Geo

open Binary64 (isNaN_of_isFinite)

variable {x y start goal finish : Binary64}

/-! ### Meridians -/

/-- A turn around the globe, in quanta of a degree. -/
def turn : Nat := 360 * unit

/-- So many quanta of a degree east of the meridian `start` is the meridian `goal`. -/
def Reaches (start goal : Binary64) (distance : Nat) : Prop :=
  (turn : Int) ∣ start.signedValue + distance - goal.signedValue

/-- The two longitudes name one meridian. -/
def SameMeridian (x y : Binary64) : Prop := Reaches x y 0

/-- Going east from `start`, one meets `goal` no later than `finish`. -/
def MetBy (start goal finish : Binary64) : Prop :=
  ∀ distance, Reaches start finish distance → ∃ earlier ≤ distance, Reaches start goal earlier

/-- How far one goes east from `start` to meet `goal` for the first time. -/
def eastward (start goal : Binary64) : Int := (goal.signedValue - start.signedValue) % turn

theorem turn_pos : (0 : Int) < turn := by
  have hunit := unit_pos
  unfold turn
  omega

theorem eastward_nonneg (start goal : Binary64) : 0 ≤ eastward start goal :=
  Int.emod_nonneg _ (Int.ne_of_gt turn_pos)

theorem reaches_iff {distance : Nat} :
    Reaches start goal distance ↔ (distance : Int) % turn = eastward start goal := by
  have hsum : start.signedValue + distance - goal.signedValue =
      distance - (goal.signedValue - start.signedValue) := by omega
  rw [Reaches, eastward, hsum, Int.emod_eq_emod_iff_emod_sub_eq_zero, Int.dvd_iff_emod_eq_zero]

theorem eastward_le {distance : Nat} (h : Reaches start goal distance) :
    eastward start goal ≤ distance := by
  rw [← reaches_iff.1 h, ← Int.natCast_emod]
  exact Int.ofNat_le.2 (Nat.mod_le _ _)

theorem reaches_eastward (start goal : Binary64) : Reaches start goal (eastward start goal).toNat := by
  rw [reaches_iff, Int.toNat_of_nonneg (eastward_nonneg start goal)]
  exact Int.emod_emod _ _

/-- A meridian is met by another one if it is not farther from the start. -/
theorem metBy_iff : MetBy start goal finish ↔ eastward start goal ≤ eastward start finish := by
  constructor
  · intro h
    obtain ⟨earlier, hle, hgoal⟩ := h _ (reaches_eastward start finish)
    have hnonneg := eastward_nonneg start finish
    have hearlier := eastward_le hgoal
    omega
  · intro h distance hfinish
    have hnonneg := eastward_nonneg start goal
    have hdistance := eastward_le hfinish
    exact ⟨_, by omega, reaches_eastward start goal⟩

theorem sameMeridian_iff_dvd :
    SameMeridian x y ↔ (turn : Int) ∣ x.signedValue - y.signedValue := by
  rw [SameMeridian, Reaches, Int.natCast_zero, Int.add_zero]

theorem SameMeridian.refl (x : Binary64) : SameMeridian x x := by
  rw [sameMeridian_iff_dvd, Int.sub_self]
  exact Int.dvd_zero _

theorem SameMeridian.symm (h : SameMeridian x y) : SameMeridian y x := by
  rw [sameMeridian_iff_dvd] at h ⊢
  rwa [← Int.dvd_neg, Int.neg_sub]

/-- Distances are between meridians, whatever they are called. -/
theorem eastward_congr {start' goal' : Binary64} (hstart : SameMeridian start start')
    (hgoal : SameMeridian goal goal') : eastward start goal = eastward start' goal' := by
  rw [sameMeridian_iff_dvd] at hstart hgoal
  have hdifference : goal.signedValue - start.signedValue - (goal'.signedValue - start'.signedValue) =
      goal.signedValue - goal'.signedValue - (start.signedValue - start'.signedValue) := by omega
  rw [eastward, eastward, Int.emod_eq_emod_iff_emod_sub_eq_zero, hdifference]
  exact Int.emod_eq_zero_of_dvd (Int.dvd_sub hgoal hstart)

theorem metBy_congr {start' goal' finish' : Binary64} (hstart : SameMeridian start start')
    (hgoal : SameMeridian goal goal') (hfinish : SameMeridian finish finish') :
    MetBy start goal finish ↔ MetBy start' goal' finish' := by
  rw [metBy_iff, metBy_iff, eastward_congr hstart hgoal, eastward_congr hstart hfinish]

/-- The start is met at once. -/
theorem metBy_of_start (h : SameMeridian start goal) : MetBy start goal finish :=
  fun distance _ => ⟨0, Nat.zero_le distance, h⟩

theorem metBy_of_finish (h : SameMeridian goal finish) : MetBy start goal finish :=
  metBy_iff.2 (Int.le_of_eq (eastward_congr (.refl start) h))

/-! ### Longitudes -/

theorem Location.within_iff {n : Nat} (hn : n ≤ 2 ^ 53) : within (.ofNat n) x = true ↔
    x.isFinite = true ∧ -(n * unit : Int) ≤ x.signedValue ∧ x.signedValue ≤ n * unit := by
  have hnat := Binary64.isNat_ofNat hn
  have hbound := isNaN_of_isFinite hnat.isFinite
  have hopposite := isNaN_of_isFinite ((Binary64.isFinite_neg _).trans hnat.isFinite)
  rw [within, Bool.and_eq_true, Binary64.atMost_iff, Binary64.atMost_iff, Binary64.signedValue_neg,
    Binary64.IsNat.signedValue_eq hnat]
  constructor
  · intro h
    obtain ⟨⟨⟨_, hx⟩, hlower⟩, _, hupper⟩ := h
    obtain ⟨size, _, hquanta⟩ := hnat
    have hceiling := size.representable.1
    rw [hquanta, ← Int.ofNat_lt, Int.natCast_mul] at hceiling
    exact ⟨Binary64.isFinite_of_natAbs_lt hx (by omega), hlower, hupper⟩
  · intro h
    obtain ⟨hfinite, hlower, hupper⟩ := h
    have hx := isNaN_of_isFinite hfinite
    exact ⟨⟨⟨hopposite, hx⟩, hlower⟩, ⟨hx, hbound⟩, hupper⟩

/-- Going east from one longitude to the other one is going around the globe. -/
def FullTurn (x y : Binary64) : Prop := x = -180 ∧ y = 180

instance (x y : Binary64) : Decidable (FullTurn x y) := inferInstanceAs (Decidable (_ ∧ _))

/-- The longitudes are the two names of the antimeridian. -/
def Twins (x y : Binary64) : Prop := FullTurn x y ∨ FullTurn y x

instance (x y : Binary64) : Decidable (Twins x y) := inferInstanceAs (Decidable (_ ∨ _))

section

variable (hx : Location.within 180 x = true) (hy : Location.within 180 y = true)

include hx in
/-- Longitudes are at most half a turn away from zero. -/
theorem value_bounds : -(turn : Int) ≤ 2 * x.signedValue ∧ 2 * x.signedValue ≤ turn := by
  obtain ⟨_, hlower, hupper⟩ := (Location.within_iff (n := 180) (by decide)).1 hx
  unfold turn
  omega

include hx hy in
theorem fullTurn_iff : FullTurn x y ↔ y.signedValue - x.signedValue = turn := by
  obtain ⟨hxFinite, hxLower, hxUpper⟩ := (Location.within_iff (n := 180) (by decide)).1 hx
  obtain ⟨hyFinite, hyLower, hyUpper⟩ := (Location.within_iff (n := 180) (by decide)).1 hy
  have hunit := unit_pos
  have hnat : (180 : Binary64).IsNat 180 := Binary64.isNat_ofNat (by decide)
  have heast := hnat.signedValue_eq
  have hwest : (-180 : Binary64).signedValue = _ := Binary64.signedValue_neg _
  have hfinite := hnat.isFinite
  have hopposite : (-180 : Binary64).isFinite = true := (Binary64.isFinite_neg _).trans hfinite
  -- neither end is a zero, so that each is told by its value
  rw [FullTurn, Binary64.eq_iff_signedValue_eq hxFinite hopposite (by omega),
    Binary64.eq_iff_signedValue_eq hyFinite hfinite (by omega), hwest, heast]
  unfold turn
  omega

include hx hy in
theorem not_fullTurn_of_lt (hlt : y.signedValue < x.signedValue) : ¬ FullTurn x y := by
  have hpos := turn_pos
  rw [fullTurn_iff hx hy]
  omega

include hx hy in
theorem eastward_of_le (hle : x.signedValue ≤ y.signedValue) (hturn : ¬ FullTurn x y) :
    eastward x y = y.signedValue - x.signedValue := by
  rw [fullTurn_iff hx hy] at hturn
  have hxBounds := value_bounds hx
  have hyBounds := value_bounds hy
  exact Int.emod_eq_of_lt (by omega) (by omega)

include hx hy in
theorem eastward_of_lt (hlt : y.signedValue < x.signedValue) :
    eastward x y = y.signedValue - x.signedValue + turn := by
  have hxBounds := value_bounds hx
  have hyBounds := value_bounds hy
  rw [eastward, ← Int.add_emod_right]
  exact Int.emod_eq_of_lt (by omega) (by omega)

include hx hy in
/-- Apart from the antimeridian, a meridian is named by one number. -/
theorem sameMeridian_iff : SameMeridian x y ↔ x.signedValue = y.signedValue ∨ Twins x y := by
  rw [SameMeridian, reaches_iff, Int.natCast_zero, Int.zero_emod, Twins, fullTurn_iff hx hy,
    fullTurn_iff hy hx]
  have hxBounds := value_bounds hx
  have hyBounds := value_bounds hy
  obtain hlt | hle := Int.lt_or_le y.signedValue x.signedValue
  · rw [eastward_of_lt hx hy hlt]
    omega
  by_cases hturn : FullTurn x y
  · rw [fullTurn_iff hx hy] at hturn
    rw [eastward, hturn, Int.emod_self]
    omega
  · rw [eastward_of_le hx hy hle hturn]
    rw [fullTurn_iff hx hy] at hturn
    omega

end

/-! ### Arcs -/

section

variable (hstart : Location.within 180 start = true) (hgoal : Location.within 180 goal = true)
  (hfinish : Location.within 180 finish = true)

include hstart hgoal hfinish

/-- An arc that does not cross the antimeridian is a range of longitudes, and may end at the
antimeridian under its other name. -/
theorem metBy_of_le (hle : start.signedValue ≤ finish.signedValue) (hturn : ¬ FullTurn start finish) :
    MetBy start goal finish ↔
      (start.signedValue ≤ goal.signedValue ∧ goal.signedValue ≤ finish.signedValue) ∨
        Twins goal start ∨ Twins goal finish := by
  by_cases htwins : Twins goal start ∨ Twins goal finish
  · refine iff_of_true ?_ (.inr htwins)
    cases htwins with
    | inl h => exact metBy_of_start ((sameMeridian_iff hgoal hstart).2 (.inr h)).symm
    | inr h => exact metBy_of_finish ((sameMeridian_iff hgoal hfinish).2 (.inr h))
  · rw [or_iff_left htwins, metBy_iff, eastward_of_le hstart hfinish hle hturn]
    rw [not_or] at htwins
    obtain ⟨hnotStart, hnotFinish⟩ := htwins
    obtain hlt | hle := Int.lt_or_le goal.signedValue start.signedValue
    · -- past the antimeridian, which the arc reaches at most
      have hpast : ¬ FullTurn goal finish := fun h => hnotFinish (.inl h)
      rw [fullTurn_iff hgoal hfinish] at hpast
      have hgoalBounds := value_bounds hgoal
      have hfinishBounds := value_bounds hfinish
      rw [eastward_of_lt hstart hgoal hlt]
      omega
    · have hback : ¬ FullTurn start goal := fun h => hnotStart (.inr h)
      rw [eastward_of_le hstart hgoal hle hback]
      omega

/-- An arc across the antimeridian leaves out a range of longitudes. -/
theorem metBy_of_lt (hlt : finish.signedValue < start.signedValue) :
    MetBy start goal finish ↔
      start.signedValue ≤ goal.signedValue ∨ goal.signedValue ≤ finish.signedValue := by
  have hgoalBounds := value_bounds hgoal
  have hfinishBounds := value_bounds hfinish
  rw [metBy_iff, eastward_of_lt hstart hfinish hlt]
  obtain hbefore | hafter := Int.lt_or_le goal.signedValue start.signedValue
  · rw [eastward_of_lt hstart hgoal hbefore]
    omega
  · have hturn : ¬ FullTurn start goal := by
      rw [fullTurn_iff hstart hgoal]
      omega
    rw [eastward_of_le hstart hgoal hafter hturn]
    omega

end

/-! ### Boxes -/

/-- Going east from `left`, one meets `lon` no later than `right`, or goes all the way around. -/
def OnArc (left lon right : Binary64) : Prop := FullTurn left right ∨ MetBy left lon right

/-- The arc from `left` to `right` does not cross the antimeridian but begins or ends there, under
another name than `lon` has for it. -/
def Overlooked (left lon right : Binary64) : Prop :=
  left.atMost right = true ∧ ¬ FullTurn left right ∧ (Twins lon left ∨ Twins lon right)

instance (left lon right : Binary64) : Decidable (Overlooked left lon right) :=
  inferInstanceAs (Decidable (_ ∧ _ ∧ _))

variable {top right bottom left lat lon : Binary64} {box : Box} {location : Location}

theorem isNaN_of_within {n : Nat} (hn : n ≤ 2 ^ 53) (h : Location.within (.ofNat n) x = true) :
    x.isNaN = false :=
  isNaN_of_isFinite ((Location.within_iff hn).1 h).1

theorem atMost_iff_of_longitudes (hx : Location.within 180 x = true)
    (hy : Location.within 180 y = true) :
    x.atMost y = true ↔ x.signedValue ≤ y.signedValue := by
  rw [Binary64.atMost_iff]
  exact and_iff_right ⟨isNaN_of_within (by decide) hx, isNaN_of_within (by decide) hy⟩

section

variable (hleft : Location.within 180 left = true) (hlon : Location.within 180 lon = true)
  (hright : Location.within 180 right = true)

include hleft hright in
theorem not_overlooked_of_lt (hlt : right.signedValue < left.signedValue) :
    ¬ Overlooked left lon right := by
  rw [Overlooked, atMost_iff_of_longitudes hleft hright]
  exact fun h => Int.not_le.2 hlt h.1

include hleft hlon hright

/-- What comparing longitudes finds is the arc without what it overlooks. -/
theorem onArc_and_not_overlooked_iff : OnArc left lon right ∧ ¬ Overlooked left lon right ↔
    if left.signedValue ≤ right.signedValue then
      left.signedValue ≤ lon.signedValue ∧ lon.signedValue ≤ right.signedValue
    else left.signedValue ≤ lon.signedValue ∨ lon.signedValue ≤ right.signedValue := by
  have hleftBounds := value_bounds hleft
  have hlonBounds := value_bounds hlon
  have hrightBounds := value_bounds hright
  split
  · rename_i hle
    rw [OnArc, Overlooked, atMost_iff_of_longitudes hleft hright]
    by_cases hturn : FullTurn left right
    · refine iff_of_true ⟨.inl hturn, fun h => h.2.1 hturn⟩ ?_
      rw [fullTurn_iff hleft hright] at hturn
      omega
    · rw [metBy_of_le hleft hlon hright hle hturn, or_iff_right hturn, and_iff_right hle,
        and_iff_right hturn]
      refine ⟨fun h => h.1.resolve_right h.2, fun hbetween => ⟨.inl hbetween, ?_⟩⟩
      -- only a full turn is long enough to hold both names of the antimeridian
      rw [fullTurn_iff hleft hright] at hturn
      rw [Twins, Twins, fullTurn_iff hlon hleft, fullTurn_iff hleft hlon, fullTurn_iff hlon hright,
        fullTurn_iff hright hlon]
      omega
  · rename_i hnotLe
    have hlt := Int.not_le.1 hnotLe
    rw [and_iff_left (not_overlooked_of_lt hleft hright hlt), OnArc,
      or_iff_right (not_fullTurn_of_lt hleft hright hlt), metBy_of_lt hleft hlon hright hlt]

theorem onArc_of_overlooked (h : Overlooked left lon right) : OnArc left lon right := by
  obtain ⟨hle, hturn, htwins⟩ := h
  rw [atMost_iff_of_longitudes hleft hright] at hle
  exact .inr ((metBy_of_le hleft hlon hright hle hturn).2 (.inr htwins))

end

theorem Box.contains_iff (hbox : Box.check top right bottom left = .ok box)
    (hlocation : Location.check lat lon = .ok location) :
    box.contains location = true ↔ (bottom.atMost lat = true ∧ lat.atMost top = true) ∧
      if left.signedValue ≤ right.signedValue then
        left.signedValue ≤ lon.signedValue ∧ lon.signedValue ≤ right.signedValue
      else left.signedValue ≤ lon.signedValue ∨ lon.signedValue ≤ right.signedValue := by
  obtain ⟨htop, hright, hbottom, hleft, _, rfl⟩ := Box.check_eq_ok_iff.1 hbox
  obtain ⟨hlat, hlon, rfl⟩ := Location.check_eq_ok_iff.1 hlocation
  have htop := isNaN_of_within (n := 90) (by decide) htop
  have hbottom := isNaN_of_within (n := 90) (by decide) hbottom
  have hlat := isNaN_of_within (n := 90) (by decide) hlat
  rw [Box.contains, Binary64.below_eq_not_atMost hlat hbottom, Binary64.below_eq_not_atMost htop hlat]
  simp only [← atMost_iff_of_longitudes hleft hright, ← atMost_iff_of_longitudes hleft hlon,
    ← atMost_iff_of_longitudes hlon hright]
  cases bottom.atMost lat <;> cases lat.atMost top <;> cases left.atMost right <;> simp

theorem Box.contains_iff_onArc (hbox : Box.check top right bottom left = .ok box)
    (hlocation : Location.check lat lon = .ok location) :
    box.contains location = true ↔ (bottom.atMost lat = true ∧ lat.atMost top = true) ∧
      OnArc left lon right ∧ ¬ Overlooked left lon right := by
  obtain ⟨_, hright, _, hleft, _⟩ := Box.check_eq_ok_iff.1 hbox
  obtain ⟨_, hlon, _⟩ := Location.check_eq_ok_iff.1 hlocation
  rw [Box.contains_iff hbox hlocation, onArc_and_not_overlooked_iff hleft hlon hright]

/-- A box is an arc of the globe between two parallels, less what is overlooked: where the arc begins or
ends at the antimeridian without crossing it, the other name of the antimeridian is left out. A box that
crosses it is the whole arc. Nothing else depends on the names, apart from the full turn. -/
theorem contains_along_arc (hbox : Box.check top right bottom left = .ok box)
    (hlocation : Location.check lat lon = .ok location) :
    (box.contains location = true ↔ (bottom.atMost lat = true ∧ lat.atMost top = true) ∧
      OnArc left lon right ∧ ¬ Overlooked left lon right) ∧
    (Overlooked left lon right → OnArc left lon right) ∧
    (right.below left = true → (box.contains location = true ↔
      (bottom.atMost lat = true ∧ lat.atMost top = true) ∧ MetBy left lon right)) ∧
    ∀ left' lon' right' box' location', Box.check top right' bottom left' = .ok box' →
      Location.check lat lon' = .ok location' →
      SameMeridian left left' → SameMeridian lon lon' → SameMeridian right right' →
      (FullTurn left right ↔ FullTurn left' right') →
      ¬ Overlooked left lon right → ¬ Overlooked left' lon' right' →
      box'.contains location' = box.contains location := by
  have hcontains := Box.contains_iff_onArc hbox hlocation
  obtain ⟨_, hright, _, hleft, _⟩ := Box.check_eq_ok_iff.1 hbox
  obtain ⟨_, hlon, _⟩ := Location.check_eq_ok_iff.1 hlocation
  refine ⟨hcontains, onArc_of_overlooked hleft hlon hright, ?_, ?_⟩
  · intro hcrosses
    have hlt := (Binary64.below_iff.1 hcrosses).2
    rw [hcontains, OnArc, or_iff_right (not_fullTurn_of_lt hleft hright hlt),
      and_iff_left (not_overlooked_of_lt hleft hright hlt)]
  · intro left' lon' right' box' location' hbox' hlocation' hsameLeft hsameLon hsameRight hturn hseen
      hseen'
    have harc : OnArc left lon right ↔ OnArc left' lon' right' := by
      rw [OnArc, OnArc, hturn, metBy_congr hsameLeft hsameLon hsameRight]
    rw [Bool.eq_iff_iff, Box.contains_iff_onArc hbox' hlocation', hcontains, harc, and_iff_left hseen,
      and_iff_left hseen']

/-- A box that crosses the antimeridian just to its other name, and one that ends there, hold the same
point of the antimeridian. -/
theorem contains_along_arc_to_antimeridian : ∃ box box' location,
    Box.check 10 (-180) (-10) 170 = .ok box ∧ Box.check 10 180 (-10) 170 = .ok box' ∧
      Location.check 0 180 = .ok location ∧ SameMeridian (-180) 180 ∧
      ¬ Overlooked 170 180 (-180) ∧ ¬ Overlooked 170 180 180 ∧ MetBy 170 180 (-180) ∧
      box.contains location = true ∧ box'.contains location = true := by
  have hbox : Box.check 10 (-180) (-10) 170 = .ok ⟨10, -180, -10, 170⟩ :=
    Box.check_eq_ok_iff.2 (by decide +kernel)
  have hbox' : Box.check 10 180 (-10) 170 = .ok ⟨10, 180, -10, 170⟩ :=
    Box.check_eq_ok_iff.2 (by decide +kernel)
  have hlocation : Location.check 0 180 = .ok ⟨0, 180⟩ :=
    Location.check_eq_ok_iff.2 (by decide +kernel)
  have hsameRight : SameMeridian (-180) 180 :=
    (sameMeridian_iff (by decide +kernel) (by decide +kernel)).2 (.inr (.inl ⟨rfl, rfl⟩))
  have hseen : ¬ Overlooked 170 180 (-180) := by decide +kernel
  have hseen' : ¬ Overlooked 170 180 180 := by decide +kernel
  obtain ⟨_, _, hcrossing, hnames⟩ := contains_along_arc hbox hlocation
  have hinside : Box.contains ⟨10, -180, -10, 170⟩ ⟨0, 180⟩ = true := by decide +kernel
  refine ⟨_, _, _, hbox, hbox', hlocation, hsameRight, hseen, hseen',
    ((hcrossing (by decide +kernel)).1 hinside).2, hinside, ?_⟩
  rw [hnames _ _ _ _ _ hbox' hlocation (.refl _) (.refl _) hsameRight (by decide +kernel) hseen hseen']
  exact hinside

/-- A box that ends at the antimeridian holds a point there under one name and not under the other one,
though it lies on the arc under both. -/
theorem antimeridian_inside_under_one_name : ∃ box location location',
    Box.check 10 180 (-10) 170 = .ok box ∧ Location.check 0 180 = .ok location ∧
      Location.check 0 (-180) = .ok location' ∧ SameMeridian 180 (-180) ∧
      (Binary64.atMost (-10) 0 = true ∧ Binary64.atMost 0 10 = true) ∧
      MetBy 170 180 180 ∧ MetBy 170 (-180) 180 ∧
      box.contains location = true ∧ box.contains location' = false := by
  have hbox : Box.check 10 180 (-10) 170 = .ok ⟨10, 180, -10, 170⟩ :=
    Box.check_eq_ok_iff.2 (by decide +kernel)
  have hlocation : Location.check 0 180 = .ok ⟨0, 180⟩ :=
    Location.check_eq_ok_iff.2 (by decide +kernel)
  have hlocation' : Location.check 0 (-180) = .ok ⟨0, -180⟩ :=
    Location.check_eq_ok_iff.2 (by decide +kernel)
  have hsame : SameMeridian 180 (-180) :=
    (sameMeridian_iff (by decide +kernel) (by decide +kernel)).2 (.inr (.inr ⟨rfl, rfl⟩))
  exact ⟨_, _, _, hbox, hlocation, hlocation', hsame, ⟨by decide +kernel, by decide +kernel⟩,
    metBy_of_finish (.refl _), metBy_of_finish hsame.symm, by decide +kernel,
    by decide +kernel⟩

end Audience.Geo
