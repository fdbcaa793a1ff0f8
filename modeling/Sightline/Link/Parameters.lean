import Sightline.Decimal.Layout

/-!
# Link parameters

The two radio heights, the frequency and the order of the Fresnel zone, and the faults of the
geometry of a link.
-/

namespace Sightline

/-- Why a link has no profile. -/
inductive GeometryFault
  | tooFewSamples (count : Nat)
  | spacing (value : Float)
  | frequency (value : Float)
  | zone (value : Nat)
  | nonFinite (what : String) (value : Float)
  deriving DecidableEq, Repr

def GeometryFault.message : GeometryFault → String
  | .tooFewSamples n => "Profile has " ++ toString n ++ " sample(s); at least 2 are required"
  | .spacing x => "Invalid sample spacing: " ++ Decimal.plain x ++ " m"
  | .frequency x => "Invalid frequency: " ++ Decimal.plain x ++ " GHz"
  | .zone n => "Invalid Fresnel zone order: " ++ toString n
  | .nonFinite what x => "Non-finite " ++ what ++ ": " ++ Decimal.plain x

/-- A number that is finite and above zero. -/
def isPositive (x : Float) : Bool := x.isFinite && 0 < x

/-- Radio and frequency parameters of a link. -/
structure LinkParameters where
  /-- Height of the transmitter above the first terrain sample in meters. -/
  txHeight : Float
  /-- Height of the receiver above the last terrain sample in meters. -/
  rxHeight : Float
  /-- Center frequency in gigahertz. -/
  frequency : Float
  /-- Order of the Fresnel zone. -/
  zone : Nat
  deriving DecidableEq, Repr

/-- The first fault of the parameters, if there is one. -/
def LinkParameters.fault? (p : LinkParameters) : Option GeometryFault :=
  if !isPositive p.frequency then some (.frequency p.frequency)
  else if p.zone = 0 then some (.zone p.zone)
  else if !p.txHeight.isFinite then some (.nonFinite "transmitter height" p.txHeight)
  else if !p.rxHeight.isFinite then some (.nonFinite "receiver height" p.rxHeight)
  else none

/-- Parameters without a fault are those whose fields all pass their checks. -/
theorem LinkParameters.fault?_eq_none_iff {p : LinkParameters} :
    p.fault? = none ↔ isPositive p.frequency = true ∧ p.zone ≠ 0 ∧
      p.txHeight.isFinite = true ∧ p.rxHeight.isFinite = true := by
  rw [fault?]
  constructor
  · intro h
    split at h
    · cases h
    · next hfrequency =>
      split at h
      · cases h
      · next hzone =>
        split at h
        · cases h
        · next htx =>
          split at h
          · cases h
          · next hrx =>
            exact ⟨by simpa using hfrequency, hzone, by simpa using htx, by simpa using hrx⟩
  · rintro ⟨hfrequency, hzone, htx, hrx⟩
    simp [hfrequency, hzone, htx, hrx]

end Sightline
