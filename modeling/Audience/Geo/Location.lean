import Audience.Json.Fields
import Audience.Numeric.Decimal

/-!
# Locations

* **`Geo.Location`**: a latitude and a longitude in degrees, in range or not.
* **`Geo.Location.check`**: the location, if both are in range.
* **`Geo.Location.distance`**: the length in meters of the great circle arc between two locations.
* **`Geo.Fault`**: why coordinates make no location, circle or box.
-/

namespace Audience.Geo

/-- A latitude and a longitude in degrees. -/
structure Location where
  lat : Binary64
  lon : Binary64
  deriving DecidableEq, Inhabited

/-- Why coordinates make no location, circle or box. -/
inductive Fault
  | latitude (value : Binary64)
  | longitude (value : Binary64)
  | radius (value : Binary64)
  | upsideDown (bottom top : Binary64)
  deriving DecidableEq

/-- The wording of a fault. -/
def Fault.message : Fault → String
  | .latitude value => "invalid latitude " ++ value.plain
  | .longitude value => "invalid longitude " ++ value.plain
  | .radius value =>
      "geocircle radius must be a non-negative number of meters, got " ++ value.plain
  | .upsideDown bottom top => "geobox bottom " ++ bottom.plain ++ " is above top " ++ top.plain

namespace Location

/-- Whether a number lies between a bound and its opposite, both included. -/
def within (bound value : Binary64) : Bool := (-bound).atMost value && value.atMost bound

/-- The location at a latitude of at most 90 and a longitude of at most 180 degrees either way. -/
def check (lat lon : Binary64) : Except Fault Location :=
  if !within 90 lat then .error (.latitude lat)
  else if !within 180 lon then .error (.longitude lon)
  else .ok ⟨lat, lon⟩

/-- Mean radius of the earth, in meters. -/
def earthRadius : Float := 6371008.8

/-- Degrees in radians. -/
def radians (degrees : Float) : Float := degrees * (3.14159265358979323846 / 180)

/-- The chord term of the haversine formula, cut off at one, as is what is not a number. -/
def chord (haversine : Float) : Float :=
  let root := haversine.sqrt
  if root < 1 then root else 1

/-- The great circle distance in meters, by the haversine formula. -/
def distance (here there : Location) : Binary64 :=
  let lat₁ := radians here.lat.toFloat
  let lat₂ := radians there.lat.toFloat
  let halfLat := ((lat₂ - lat₁) / 2).sin
  let halfLon := (radians (there.lon.toFloat - here.lon.toFloat) / 2).sin
  let haversine := halfLat * halfLat + lat₁.cos * lat₂.cos * (halfLon * halfLon)
  .ofFloat (2 * earthRadius * (chord haversine).asin)

/-- The location as a JSON object. -/
def toJson (location : Location) : Json :=
  .ofMembers [("lat", .ofBinary64 location.lat), ("lon", .ofBinary64 location.lon)]

/-- Reads a location, in range or not. -/
def ofSpelling? (document : Json.Spelling) : Option Location := do
  match ← document.entries? ["lat", "lon"] with
  | [lat, lon] => return ⟨← lat.required? (·.number?), ← lon.required? (·.number?)⟩
  | _ => none

end Location

end Audience.Geo
