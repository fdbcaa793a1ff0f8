import Sightline.Decimal.Layout
import Sightline.Json.Basic

/-!
# Areas of interest

A part of a link, given by the fractions of its length where it starts and ends.
-/

namespace Sightline

/-- Whether a number is a fraction; NaN is not. -/
def isFraction (x : Float) : Bool := 0 ≤ x && x ≤ 1

/-- A part of a link that starts before it ends. -/
structure Aoi where
  start : Float
  stop : Float
  deriving DecidableEq, Repr

namespace Aoi

/-- The whole link. -/
def full : Aoi := ⟨0, 1⟩

/-- The part with the given ends, where they are ascending fractions. -/
def make? (start stop : Float) : Option Aoi :=
  if isFraction start && isFraction stop && start < stop then some ⟨start, stop⟩ else none

/-- Whether the ends are those of the whole link; a zero of either sign is its start. -/
def spansAll (start stop : Float) : Bool := start == 0 && stop == 1

def isFull (a : Aoi) : Bool := spansAll a.start a.stop

/-- The form used in keys. -/
def text (a : Aoi) : String := Decimal.plain a.start ++ "," ++ Decimal.plain a.stop

def toJson (a : Aoi) : Json := .ofPair (a.start, a.stop)

/-- Reads an array of exactly two ascending fractions. -/
def ofJson? (v : Json) : Option Aoi := v.pair?.bind fun p => make? p.1 p.2

end Aoi

end Sightline
