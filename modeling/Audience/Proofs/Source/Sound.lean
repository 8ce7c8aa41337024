import Audience.Proofs.Criterion.Grammar
import Audience.Proofs.Text.Segments

/-!
# Sound sources

* **`Source.WellBuilt`**: what stands on what in a source.
* **`Source.Sound`**: a well built source that is read from an event only where one is looked at.
* **`Source.sound_of_denotes`**: the source of a dotted path is sound where the path stands under a
  sound source.
-/

namespace Audience.Source

/-- The segments of a field: some, none of them empty, and none with a point. -/
structure IsSegments (segments : List String) : Prop where
  ne_nil : segments ≠ []
  ne_empty : ∀ segment ∈ segments, segment ≠ ""
  no_point : ∀ segment ∈ segments, '.' ∉ segment.toList

/-- Activities and locations are those of an installation or user, and fields are those of a scope or
of another field. -/
def WellBuilt : Source → Prop
  | installation | user | event => True
  | lastActivity parent | location parent | locationDate parent => parent.isOwner = true
  | field parent path => parent.hasFields = true ∧ parent.WellBuilt ∧ IsSegments path
  | sinceDate parent | elapsedTime parent => parent.WellBuilt

/-- The source is well built, and read from an event only if one is looked at. -/
structure Sound (looking : Bool) (source : Source) : Prop where
  wellBuilt : source.WellBuilt
  event : source.root = .event → looking = true

variable {looking : Bool} {source base about : Source}

/-! ### Sources on sound ones -/

theorem sound_installation : installation.Sound looking where
  wellBuilt := trivial
  event h := by cases h

theorem sound_user : user.Sound looking where
  wellBuilt := trivial
  event h := by cases h

theorem sound_event : event.Sound true where
  wellBuilt := trivial
  event _ := rfl

theorem Sound.lastActivity (h : source.Sound looking) (howner : source.isOwner = true) :
    (lastActivity source).Sound looking :=
  ⟨howner, h.event⟩

theorem Sound.location (h : source.Sound looking) (howner : source.isOwner = true) :
    (location source).Sound looking :=
  ⟨howner, h.event⟩

theorem Sound.locationDate (h : source.Sound looking) (howner : source.isOwner = true) :
    (locationDate source).Sound looking :=
  ⟨howner, h.event⟩

theorem Sound.field {path : List String} (h : source.Sound looking)
    (hfields : source.hasFields = true) (hpath : IsSegments path) :
    (field source path).Sound looking :=
  ⟨⟨hfields, h.wellBuilt, hpath⟩, h.event⟩

theorem Sound.sinceDate (h : source.Sound looking) : (sinceDate source).Sound looking :=
  ⟨h.wellBuilt, h.event⟩

theorem Sound.elapsedTime (h : source.Sound looking) : (elapsedTime source).Sound looking :=
  ⟨h.wellBuilt, h.event⟩

/-! ### Sources of paths -/

theorem isSegments_of_isFieldPath {path : String} (h : Grammar.IsFieldPath path) :
    IsSegments (Text.segments '.' path) where
  ne_nil := Text.segments_ne_nil path
  ne_empty := h
  no_point _ hsegment := Text.not_mem_of_mem_segments hsegment

theorem sound_of_below {segments : List String} (h : Grammar.Below base segments about)
    (hbase : base.Sound looking) (hempty : ∀ segment ∈ segments, segment ≠ "")
    (hpoint : ∀ segment ∈ segments, '.' ∉ segment.toList) : about.Sound looking := by
  cases h with
  | self => exact hbase
  | lastActivity howner => exact hbase.lastActivity howner
  | field hne _ hfields => exact hbase.field hfields ⟨hne, hempty, hpoint⟩

/-- The rest of a path after its first segment. -/
theorem sound_of_rest {path first : String} {rest : List String} (hpath : Grammar.IsFieldPath path)
    (hsegments : Text.segments '.' path = first :: rest) (h : Grammar.Below base rest about)
    (hbase : base.Sound looking) : about.Sound looking := by
  have hall := isSegments_of_isFieldPath hpath
  rw [hsegments] at hall
  refine sound_of_below h hbase ?_ ?_
  · intro segment hmem
    exact hall.ne_empty segment (List.mem_cons_of_mem _ hmem)
  · intro segment hmem
    exact hall.no_point segment (List.mem_cons_of_mem _ hmem)

theorem sound_of_denotes {path : String} (h : Grammar.Denotes source path about)
    (hsource : source.Sound looking) : about.Sound looking := by
  cases h with
  | installation hpath hsegments h => exact sound_of_rest hpath hsegments h sound_installation
  | user hpath hsegments h => exact sound_of_rest hpath hsegments h sound_user
  | here hpath _ _ h =>
    have hall := isSegments_of_isFieldPath hpath
    exact sound_of_below h hsource hall.ne_empty hall.no_point

end Audience.Source
