import Sightline.Position

/-!
# Line of sight over the curved Earth

In polar coordinates about the center of the Earth the transmitter stands at angle zero and the
receiver at the angle of the whole link. The chord between them is projected back on every sample
angle, which gives the height of the ray above the curved ground.
-/

namespace Sightline

/-- Below this difference of the abscissas the chord counts as vertical. -/
def verticalChord : Float := 1e-12

/-- Height of the chord at an angle, for ends at radius `r₁` and `r₂` and the end angle. -/
def chordHeight (r₁ r₂ endAngle : Float) : Float → Float :=
  let x₂ := r₂ * endAngle.cos
  let y₂ := r₂ * endAngle.sin
  if (x₂ - r₁).abs < verticalChord then
    fun angle => r₁ / angle.cos - earthRadius
  else
    let slope := y₂ / (x₂ - r₁)
    let intercept := y₂ - slope * x₂
    fun angle => intercept / (angle.sin - slope * angle.cos) - earthRadius

/-- Height of the ray at each of `length` samples. The ends are the radio heights themselves. -/
def lineOfSight (tx rx : Float) (length : Nat) (spacing : Float) : List Float :=
  let angle (i : Nat) : Float := Float.ofNat i * spacing / earthRadius
  let height := chordHeight (earthRadius + tx) (earthRadius + rx) (angle (length - 1))
  (List.range length).map fun i =>
    if i + 1 = length then rx else if i = 0 then tx else height (angle i)

end Sightline
