import Sightline.Json.Basic
import Sightline.Request.Aoi

/-!
# Profile messages

Answers to a link request: the LiDAR surface, the bare terrain, and a summary of the link. An
absent field takes its default, and an absent area of interest is the whole link.
-/

namespace Sightline

/-- A LiDAR surface along the link. -/
structure LidarAnswer where
  error : Option String
  hash : String
  aoi : Float × Float
  /-- Distances and heights in meters. -/
  samples : List (Float × Float)
  /-- Length of the link in meters. -/
  distance : Option Float
  source : Option Json
  resolution : Option String
  url : Option Json
  bounds : List Float
  tx : Option (Float × Float)
  rx : Option (Float × Float)
  /-- A fuller surface will follow. -/
  stillLoading : Bool

/-- One terrain sample. -/
structure TerrainPoint where
  elevation : Float
  lat : Float
  lng : Float
  deriving DecidableEq, Repr

/-- The bare terrain along the link. -/
structure TerrainAnswer where
  error : Option String
  hash : String
  aoi : Float × Float
  points : List TerrainPoint
  /-- Length of the link in meters. -/
  distance : Option Float
  source : Option Json

/-- A summary of the link. -/
structure LinkAnswer where
  error : Option String
  hash : String
  /-- Length of the link in meters. -/
  distance : Option Float
  deriving DecidableEq, Repr

/-- An answer to a link request. -/
inductive ProfileMessage
  | lidar (answer : LidarAnswer)
  | terrain (answer : TerrainAnswer)
  | link (answer : LinkAnswer)

/-- The whole link as a pair of ends. -/
def fullRange : Float × Float := (Aoi.full.start, Aoi.full.stop)

/-- Whether the answer is for the whole link. -/
def LidarAnswer.isFull (a : LidarAnswer) : Bool := Aoi.spansAll a.aoi.1 a.aoi.2

/-- Whether the answer is for the whole link. -/
def TerrainAnswer.isFull (a : TerrainAnswer) : Bool := Aoi.spansAll a.aoi.1 a.aoi.2

/-- The elevations of the samples. -/
def TerrainAnswer.elevations (a : TerrainAnswer) : List Float := a.points.map (·.elevation)

/-! ### Reading -/

/-- Reads a sample as an object or as the array of its fields. -/
def TerrainPoint.ofJson? (v : Json) : Option TerrainPoint := do
  let [some elevation, some lat, some lng] ← v.fields? ["elevation", "lat", "lng"] | none
  return ⟨← elevation.float?, ← lat.float?, ← lng.float?⟩

def LidarAnswer.ofJson? (v : Json) : Option LidarAnswer := do
  return {
    error := ← v.optional? "error" Json.str?
    hash := ← v.field? "hash" "" Json.str?
    aoi := ← v.field? "aoi" fullRange Json.pair?
    samples := ← v.field? "lidar_profile" [] (Json.list? Json.pair?)
    distance := ← v.optional? "dist" Json.float?
    source := ← v.optional? "source" some
    resolution := ← v.optional? "res" Json.str?
    url := ← v.optional? "url" some
    bounds := ← v.field? "bb" [] (Json.list? Json.float?)
    tx := ← v.optional? "tx" Json.pair?
    rx := ← v.optional? "rx" Json.pair?
    stillLoading := ← v.field? "still_loading" false Json.bool? }

def TerrainAnswer.ofJson? (v : Json) : Option TerrainAnswer := do
  return {
    error := ← v.optional? "error" Json.str?
    hash := ← v.field? "hash" "" Json.str?
    aoi := ← v.field? "aoi" fullRange Json.pair?
    points := ← v.field? "terrain_profile" [] (Json.list? TerrainPoint.ofJson?)
    distance := ← v.optional? "dist" Json.float?
    source := ← v.optional? "source" some }

def LinkAnswer.ofJson? (v : Json) : Option LinkAnswer := do
  return {
    error := ← v.optional? "error" Json.str?
    hash := ← v.field? "hash" "" Json.str?
    distance := ← v.optional? "dist" Json.float? }

namespace ProfileMessage

/-- The token of the request that is answered; empty if there is none. -/
def hash : ProfileMessage → String
  | .lidar a => a.hash
  | .terrain a => a.hash
  | .link a => a.hash

/-- The error text of an answer that failed. -/
def error : ProfileMessage → Option String
  | .lidar a => a.error
  | .terrain a => a.error
  | .link a => a.error

/-- Reads an answer; its handler says which one it is. -/
def ofJson? (v : Json) : Option ProfileMessage :=
  match v.member? "handler" with
  | some (.str "lidar") => (LidarAnswer.ofJson? v).map .lidar
  | some (.str "terrain") => (TerrainAnswer.ofJson? v).map .terrain
  | some (.str "link") => (LinkAnswer.ofJson? v).map .link
  | _ => none

end ProfileMessage

end Sightline
