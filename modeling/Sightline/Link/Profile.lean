import Sightline.Link.Fresnel
import Sightline.Link.LineOfSight
import Sightline.Link.Terrain

/-!
# Link profile

The line of sight of a link and the Fresnel envelope around it.
-/

namespace Sightline

/-- The profile of a link over its terrain. -/
structure LinkProfile where
  lineOfSight : List Float
  envelope : List (FresnelPoint Float)
  spacing : Float
  ground : List Float
  deriving DecidableEq, Repr

namespace LinkProfile

/-- The profile of a link. The radio heights count from the ends of the terrain; the heights of
the profile are absolute. -/
def compute (terrain : Terrain) (params : LinkParameters) : Except GeometryFault LinkProfile :=
  match params.fault? with
  | some fault => .error fault
  | none =>
    let ray := Sightline.lineOfSight (params.txHeight + terrain.first)
      (params.rxHeight + terrain.last) terrain.length terrain.spacing
    let widths := halfWidths terrain.length terrain.spacing params.frequency params.zone
    let point (i : Nat) (h : Float × Float) : FresnelPoint Float :=
      ⟨Float.ofNat i * terrain.spacing, h.1 - h.2, h.1 + h.2⟩
    .ok ⟨ray, (ray.zip widths).mapIdx point, terrain.spacing, terrain.samples⟩

/-- Widest full zone width along the link. -/
def maxFresnelWidth (p : LinkProfile) : Float := maxWidth p.envelope

/-- Height of the lower edge of the zone above the ground at each sample. -/
def clearance (p : LinkProfile) : List Float :=
  List.zipWith (fun point ground => point.lower - ground) p.envelope p.ground

end LinkProfile

end Sightline
