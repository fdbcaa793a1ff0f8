import Sightline.Scalar

/-!
# Fresnel zone

The zone around the line of sight is as wide as the square root of a quantity that vanishes at
both ends of the link.
-/

namespace Sightline

variable {α : Type} [NatCast α] [Mul α] [Div α]

/-- Speed of light in vacuum in meters per second. -/
def speedOfLight : Nat := 299792458

/-- Wavelength in meters at a frequency in gigahertz. -/
def wavelength (frequency : α) : α :=
  (speedOfLight : α) / (frequency * ((1000000000 : Nat) : α))

/-- The square of the half width of zone `zone` at sample `i` of `last + 1`. -/
def halfWidthSquared (last : Nat) (spacing frequency : α) (zone i : Nat) : α :=
  (zone : α) * ((i : α) * spacing) * (((last - i : Nat) : α) * spacing) * wavelength frequency /
    ((last : α) * spacing)

/-- One sample of the envelope: its distance from the transmitter and both edges of the zone. -/
structure FresnelPoint (α : Type) where
  distance : α
  lower : α
  upper : α
  deriving DecidableEq, Repr

/-- Full width of the zone at the sample. -/
def FresnelPoint.width [Sub α] (p : FresnelPoint α) : α := p.upper - p.lower

/-- The greater of two numbers; NaN loses against any number. -/
def greater (x y : Float) : Float := if x.isNaN then y else if x < y then y else x

/-- Widest full width of an envelope. -/
def maxWidth (points : List (FresnelPoint Float)) : Float :=
  (points.map FresnelPoint.width).foldl greater 0

/-- Half widths of the zone at each of `length` samples. -/
def halfWidths (length : Nat) (spacing frequency : Float) (zone : Nat) : List Float :=
  (List.range length).map fun i =>
    (halfWidthSquared (length - 1) spacing frequency zone i).sqrt

end Sightline
