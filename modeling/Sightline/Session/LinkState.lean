import Sightline.Message.Profile
import Sightline.Obstruction.Surface

/-!
# Link state

What is known of the link under edit. Terrain, surface and length arrive apart and in any order;
the analysis is computed anew from all of them.
-/

namespace Sightline

/-- What is known of the surface along the link. -/
inductive SurfaceState
  | absent
  | available (surface : Surface Float)
  /-- The backend reported an error in its place. -/
  | unavailable (reason : String)
  deriving DecidableEq, Repr

/-- The analysis of a link. -/
structure LinkAnalysis where
  profile : LinkProfile
  /-- None while the surface is not available. -/
  obstructions : Option (List (Interval Float))
  /-- The backend is still refining the surface. -/
  stillLoading : Bool
  /-- Length of the link in meters. -/
  distance : Float
  deriving DecidableEq, Repr

/-- What is known of a link, and the parameters of its radios. -/
structure LinkState where
  params : LinkParameters
  elevation : Option (List Float)
  /-- The first and the last terrain sample. -/
  ends : Option (TerrainPoint × TerrainPoint)
  surface : SurfaceState
  /-- The length that was reported. -/
  reported : Option Float
  stillLoading : Bool
  deriving DecidableEq, Repr

namespace LinkState

/-- Radio heights in meters before any is set. -/
def initialHeight : Float := 10

/-- Nothing is known but the parameters. -/
def initial (params : LinkParameters) : LinkState := ⟨params, none, none, .absent, none, false⟩

/-- Forgets all that was reported. -/
def reset (l : LinkState) : LinkState := initial l.params

/-- Takes over the terrain. Its length counts only if none was reported before. -/
def applyTerrain (l : LinkState) (a : TerrainAnswer) : LinkState :=
  { l with
    elevation := some a.elevations
    ends := do return (← a.points.head?, ← a.points.getLast?)
    reported := l.reported.or a.distance }

def terrainFailed (l : LinkState) : LinkState := { l with elevation := none, ends := none }

/-- Takes over the surface, and its length if it has one. -/
def applyLidar (l : LinkState) (a : LidarAnswer) : LinkState :=
  { l with
    surface := .available (Surface.ofPairs a.samples)
    reported := a.distance.or l.reported
    stillLoading := a.stillLoading }

def lidarFailed (l : LinkState) (reason : String) : LinkState :=
  { l with surface := .unavailable reason, stillLoading := false }

/-- Takes over a reported length. -/
def applyDistance (l : LinkState) (distance : Float) : LinkState :=
  { l with reported := some distance }

/-- The length of the link: the reported one, else that between the ends of the terrain. -/
def distance? (l : LinkState) : Option Float :=
  l.reported.or (l.ends.map fun (a, b) => haversine a.lat a.lng b.lat b.lng)

/-- The analysis over known samples and a known length. -/
def analyzeOver (l : LinkState) (samples : List Float) (distance : Float) :
    Except GeometryFault LinkAnalysis := do
  let terrain ← Terrain.spanning samples distance
  let profile ← LinkProfile.compute terrain l.params
  let obstructions := match l.surface with
    | .available surface => some (profile.obstructions surface)
    | _ => none
  return ⟨profile, obstructions, l.stillLoading, distance⟩

/-- The analysis of the link, once its terrain and its length are known. -/
def analysis? (l : LinkState) : Option (Except GeometryFault LinkAnalysis) := do
  let samples ← l.elevation
  let distance ← l.distance?
  return l.analyzeOver samples distance

end LinkState

end Sightline
