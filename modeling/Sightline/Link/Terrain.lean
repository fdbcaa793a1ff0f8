import Sightline.Link.Parameters

/-!
# Terrain

Elevation samples at a fixed spacing along the link.
-/

namespace Sightline

/-- At least two elevation samples. -/
structure Terrain where
  samples : List Float
  spacing : Float
  two_le_length : 2 ≤ samples.length
  deriving DecidableEq

namespace Terrain

/-- The terrain with the given samples; the spacing has to be finite and positive, and every
sample finite. -/
def make (samples : List Float) (spacing : Float) : Except GeometryFault Terrain :=
  if h : 2 ≤ samples.length then
    if isPositive spacing then
      match samples.find? fun x => !x.isFinite with
      | some x => .error (.nonFinite "elevation sample" x)
      | none => .ok ⟨samples, spacing, h⟩
    else .error (.spacing spacing)
  else .error (.tooFewSamples samples.length)

/-- The terrain whose samples span a distance from end to end. -/
def spanning (samples : List Float) (distance : Float) : Except GeometryFault Terrain :=
  if samples.length < 2 then .error (.tooFewSamples samples.length)
  else make samples (distance / Float.ofNat (samples.length - 1))

def length (t : Terrain) : Nat := t.samples.length

/-- Distance from the first to the last sample. -/
def span (t : Terrain) : Float := Float.ofNat (t.length - 1) * t.spacing

theorem samples_ne_nil (t : Terrain) : t.samples ≠ [] := by
  intro h
  have := t.two_le_length
  simp [h] at this

/-- Elevation under the transmitter. -/
def first (t : Terrain) : Float := t.samples.head t.samples_ne_nil

/-- Elevation under the receiver. -/
def last (t : Terrain) : Float := t.samples.getLast t.samples_ne_nil

end Terrain

end Sightline
