import Sightline.Text.Blank

/-!
# Unit systems

Heights are kept in meters; a user may enter them in feet.
-/

namespace Sightline

/-- The unit system in which heights are entered. -/
inductive UnitSystem
  | metric
  | us
  deriving DecidableEq, Repr, Inhabited

def milesPerKm : Float := 0.621371

def feetPerMeter : Float := 3.28084

def kmToMiles (km : Float) : Float := km * milesPerKm

def metersToFeet (m : Float) : Float := m * feetPerMeter

def feetToMeters (ft : Float) : Float := ft / feetPerMeter

namespace UnitSystem

def all : List UnitSystem := [.metric, .us]

def name : UnitSystem → String
  | .metric => "metric"
  | .us => "us"

/-- A height entered in this unit system, in meters. -/
def heightToMeters : UnitSystem → Float → Float
  | .metric, x => x
  | .us, x => feetToMeters x

/-- Reads a name in any case and with blanks around it. -/
def parse? (text : String) : Option UnitSystem :=
  let word := String.ofList ((Text.trim text.toList).map Char.toLower)
  if word = "metric" then some .metric
  else if word = "us" ∨ word = "imperial" then some .us
  else none

end UnitSystem

end Sightline
