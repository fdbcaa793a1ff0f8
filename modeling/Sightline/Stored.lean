import Sightline.Coverage.Feature
import Sightline.Json.View
import Sightline.Obstruction.Surface
import Sightline.Request.Kind
import Sightline.Units

/-!
# Stored values

The JSON forms in which single values of the library are kept by its callers.
-/

namespace Sightline

open Json (Tree)

def UnitSystem.ofTree? (t : Tree) : Option UnitSystem :=
  t.constant?.bind fun name => all.find? fun u => u.name = name

def CoverageStatus.ofTree? (t : Tree) : Option CoverageStatus :=
  t.constant?.bind fun name => all.find? fun s => s.name = name

def RequestKind.ofTree? (t : Tree) : Option RequestKind :=
  t.constant?.bind fun name => all.find? fun k => k.name = name

/-! ### Building keys -/

/-- Coordinates of a vertex are signed 64-bit words. -/
def Vertex.coordinate? (t : Tree) : Option Int :=
  t.intWithin? Int64.minValue.toInt Int64.maxValue.toInt

def Vertex.ofTree? (t : Tree) : Option Vertex :=
  match t with
  | .arr [x, y] => do
    return ⟨← coordinate? x, ← coordinate? y⟩
  | _ => none

def Vertex.toJson (v : Vertex) : Json := .arr [.int v.lng, .int v.lat]

def BuildingKey.ofTree? (t : Tree) : Option BuildingKey :=
  match t.single? with
  | some ("Id", value) => (value.intWithin? 0 Feature.numberBound).map fun n => .id n.toNat
  | some ("Footprint", value) => (value.list? Vertex.ofTree?).map .ring
  | _ => none

def BuildingKey.toJson : BuildingKey → Json
  | .id n => .obj [("Id", .nat n)]
  | .ring vs => .obj [("Footprint", .arr (vs.map Vertex.toJson))]

/-! ### Intervals and surfaces -/

def Interval.ofTree? (t : Tree) : Option (Interval Float) := do
  let [start, stop] ← t.record? ["start", "end"] | none
  return ⟨← start.float?, ← stop.float?⟩

def Interval.toJson (i : Interval Float) : Json :=
  .obj [("end", .ofFloat i.stop), ("start", .ofFloat i.start)]

def SurfaceSample.ofTree? (t : Tree) : Option (SurfaceSample Float) := do
  let [distance, height] ← t.record? ["distance", "height"] | none
  return ⟨← distance.float?, ← height.float?⟩

def SurfaceSample.toJson (s : SurfaceSample Float) : Json :=
  .obj [("distance", .ofFloat s.distance), ("height", .ofFloat s.height)]

def Surface.ofTree? (t : Tree) : Option (Surface Float) := t.list? SurfaceSample.ofTree?

def Surface.toJson (s : Surface Float) : Json := .arr (s.map SurfaceSample.toJson)

end Sightline
