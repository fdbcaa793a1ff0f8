import Sightline.Decimal.Layout
import Sightline.Json.Basic

/-!
# Positions

A position on the globe is a longitude and a latitude in degrees, in that order in every text.
-/

namespace Sightline

/-- Mean Earth radius in meters. -/
def earthRadius : Float := 6371000

/-- Why a pair of numbers is no position. -/
inductive PositionFault
  | latitude (value : Float)
  | longitude (value : Float)
  deriving DecidableEq, Repr

def PositionFault.message : PositionFault → String
  | .latitude x => "Invalid latitude: " ++ Decimal.plain x ++ " (expected -90..=90)"
  | .longitude x => "Invalid longitude: " ++ Decimal.plain x ++ " (expected -180..=180)"

/-- Whether a number of degrees lies within `bound` of zero; NaN does not. -/
def withinDegrees (bound x : Float) : Bool := -bound ≤ x && x ≤ bound

/-- A position with both coordinates in range. -/
structure Position where
  lng : Float
  lat : Float
  lng_mem : withinDegrees 180 lng = true
  lat_mem : withinDegrees 90 lat = true
  deriving DecidableEq

namespace Position

/-- The position with the given coordinates; the longitude is checked first. -/
def make (lng lat : Float) : Except PositionFault Position :=
  if h : withinDegrees 180 lng then
    if h' : withinDegrees 90 lat then .ok ⟨lng, lat, h, h'⟩
    else .error (.latitude lat)
  else .error (.longitude lng)

/-- The form used in keys. -/
def text (p : Position) : String := Decimal.plain p.lng ++ "," ++ Decimal.plain p.lat

def toJson (p : Position) : Json := .arr [.float p.lng, .float p.lat]

/-- Reads an array of exactly two numbers in range. -/
def ofJson? (v : Json) : Option Position := do
  let (lng, lat) ← v.pair?
  (make lng lat).toOption

end Position

/-- Degrees as radians. -/
def radians (degrees : Float) : Float := degrees * (3.14159265358979323846 / 180)

def square (x : Float) : Float := x * x

/-- Great-circle distance in meters by the haversine formula. -/
def haversine (lat₁ lng₁ lat₂ lng₂ : Float) : Float :=
  let dLat := radians (lat₂ - lat₁)
  let dLng := radians (lng₂ - lng₁)
  let a := square (dLat / 2).sin +
    (radians lat₁).cos * (radians lat₂).cos * square (dLng / 2).sin
  earthRadius * (2 * Float.atan2 a.sqrt (1 - a).sqrt)

/-- Great-circle distance between two positions in meters. -/
def Position.distance (p q : Position) : Float := haversine p.lat p.lng q.lat q.lng

end Sightline
