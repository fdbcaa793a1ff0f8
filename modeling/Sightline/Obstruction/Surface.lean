import Sightline.Link.Profile
import Sightline.Obstruction.Interval
import Sightline.Obstruction.Resample

/-!
# Obstructions by a surface

A surface sampled by LiDAR is compared with the Fresnel zone, at the distances of the surface, or
with the bare line of sight, at the samples of the link.
-/

namespace Sightline

/-- A surface sample: distance from the transmitter, and height above sea level. -/
structure SurfaceSample (α : Type) where
  distance : α
  height : α
  deriving DecidableEq, Repr

/-- Surface samples along a link. -/
abbrev Surface (α : Type) := List (SurfaceSample α)

namespace Surface

/-- The surface of pairs of distance and height. -/
def ofPairs {α : Type} (pairs : List (α × α)) : Surface α := pairs.map fun p => ⟨p.1, p.2⟩

def distances {α : Type} (s : Surface α) : List α := s.map (·.distance)

def heights {α : Type} (s : Surface α) : List α := s.map (·.height)

/-- Height of the highest sample. -/
def maxHeight? (s : Surface Float) : Option Float :=
  match s.heights with
  | [] => none
  | h :: hs => some (hs.foldl greater h)

end Surface

section

variable {α : Type} [Add α] [Sub α] [Mul α] [Div α] [BEq α] [LT α] [DecidableLT α] [OfNat α 0]

/-- Where the surface reaches into the Fresnel zone, in distances of the surface. The lower edge
of the zone is resampled. -/
def obstructionsByDistance (envelope : List (FresnelPoint α)) (surface : Surface α) :
    List (Interval α) :=
  let lower := resample surface.distances (envelope.map (·.distance)) (envelope.map (·.lower))
  scan (List.zipWith (fun link sample => Gap.mk sample.distance (link - sample.height))
    lower surface)

/-- Where the surface rises above the line of sight, in sample numbers of the link. The surface
is resampled. -/
def obstructionsByIndex [NatCast α] (ray : List α) (spacing : α) (surface : Surface α) :
    List (Interval α) :=
  let axis := (List.range ray.length).map fun (i : Nat) => (i : α) * spacing
  let heights := resample axis surface.distances surface.heights
  scan ((ray.zip heights).mapIdx fun (i : Nat) h => Gap.mk (i : α) (h.1 - h.2))

end

/-- Obstructions of the Fresnel zone of a profile, in meters. -/
def LinkProfile.obstructions (p : LinkProfile) (surface : Surface Float) : List (Interval Float) :=
  obstructionsByDistance p.envelope surface

end Sightline
