import Audience.Geo.Location

/-!
# Areas

* **`Geo.Circle`**: the locations at most a distance away from a center.
* **`Geo.Box`**: the locations between two parallels and two meridians, going east from `left` to
  `right`; where `left` is greater, the box crosses the antimeridian.
* **`Geo.Area`**: a circle or a box, and **`Geo.Area.contains`**.
-/

namespace Audience.Geo

/-- The locations at most `radius` meters away from `center`. -/
structure Circle where
  center : Location
  radius : Binary64
  deriving DecidableEq

namespace Circle

/-- The circle around a center, if the radius is finite and not negative. -/
def check (center : Location) (radius : Binary64) : Except Fault Circle :=
  if radius.isFinite && Binary64.zero.atMost radius then .ok ⟨center, radius⟩
  else .error (.radius radius)

/-- Whether a location is inside or on the edge. -/
def contains (circle : Circle) (location : Location) : Bool :=
  (circle.center.distance location).atMost circle.radius

/-- Reads a circle, possible or not. -/
def ofSpelling? (document : Json.Spelling) : Option Circle := do
  match ← document.entries? ["center", "radiusMeters"] with
  | [center, radius] =>
      return ⟨← center.required? Location.ofSpelling?, ← radius.required? (·.number?)⟩
  | _ => none

end Circle

/-- The locations between two parallels and two meridians. -/
structure Box where
  top : Binary64
  right : Binary64
  bottom : Binary64
  left : Binary64
  deriving DecidableEq

namespace Box

/-- The box with the given edges, if they are in range and `bottom` is not above `top`. -/
def check (top right bottom left : Binary64) : Except Fault Box := do
  let _ ← Location.check top right
  let _ ← Location.check bottom left
  if top.below bottom then .error (.upsideDown bottom top) else .ok ⟨top, right, bottom, left⟩

/-- Whether a location is inside or on an edge. -/
def contains (box : Box) (location : Location) : Bool :=
  if location.lat.below box.bottom || box.top.below location.lat then false
  else if box.left.atMost box.right then
    box.left.atMost location.lon && location.lon.atMost box.right
  else box.left.atMost location.lon || location.lon.atMost box.right

/-- Reads a box, possible or not. -/
def ofSpelling? (document : Json.Spelling) : Option Box := do
  match ← document.entries? ["top", "right", "bottom", "left"] with
  | [top, right, bottom, left] =>
      return ⟨← top.required? (·.number?), ← right.required? (·.number?),
        ← bottom.required? (·.number?), ← left.required? (·.number?)⟩
  | _ => none

end Box

/-- A circle or a box. -/
inductive Area
  | circle (circle : Circle)
  | box (box : Box)
  deriving DecidableEq

namespace Area

/-- Whether a location is inside or on the edge. -/
def contains : Area → Location → Bool
  | circle c, location => c.contains location
  | box b, location => b.contains location

/-- The area as a JSON object. -/
def toJson : Area → Json
  | circle c =>
      .object [("circle",
        .ofMembers [("center", c.center.toJson), ("radiusMeters", .ofBinary64 c.radius)])]
  | box b =>
      .object [("box",
        .ofMembers [("top", .ofBinary64 b.top), ("right", .ofBinary64 b.right),
          ("bottom", .ofBinary64 b.bottom), ("left", .ofBinary64 b.left)])]

/-- Reads an area, possible or not. -/
def ofSpelling? (document : Json.Spelling) : Option Area := do
  match ← document.onlyMember? with
  | ("circle", body) => return .circle (← Circle.ofSpelling? body)
  | ("box", body) => return .box (← Box.ofSpelling? body)
  | _ => none

/-- Reads an area from a JSON value. -/
def ofJson? (document : Json) : Option Area := ofSpelling? document.spelling

end Area

end Audience.Geo
