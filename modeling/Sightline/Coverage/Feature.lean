import Sightline.Coverage.CoverageSet
import Sightline.Json.Basic

/-!
# Building features

The backend reports buildings as GeoJSON features. A feature that cannot be read, or that has
neither a number nor a ring, is left out. One whose ring overflows stops the whole import.
-/

namespace Sightline

/-- What a feature says of a building. -/
structure Feature where
  number : Option Nat
  footprint : Option Footprint
  word : Option String
  deriving DecidableEq, Repr

namespace Feature

/-- Building numbers are unsigned 64-bit words. -/
def numberBound : Nat := UInt64.size - 1

/-- The rings of a polygon. -/
def rings? (geometry : Json) : Option (List Footprint) := do
  let [coordinates] ← geometry.fields? ["coordinates"] | none
  Json.withDefault? [] (Json.list? (Json.list? Json.pair?)) coordinates

/-- The number and the status word of the properties. -/
def properties? (properties : Json) : Option (Option Nat × Option String) := do
  let [number, word] ← properties.fields? ["msftid", "serviceable"] | none
  let number ← Json.withDefault? none (Json.nullable? (Json.natUpTo? numberBound)) number
  let word ← Json.withDefault? none (Json.nullable? Json.str?) word
  return (number, word)

/-- The first ring of the polygon; an empty ring counts as none. -/
def footprintOf (rings : List Footprint) : Option Footprint :=
  rings.head?.filter fun ring => !ring.isEmpty

/-- Reads a feature. Every ring and every property has to be well formed. -/
def ofJson? (v : Json) : Option Feature := do
  let [geometry, properties] ← v.fields? ["geometry", "properties"] | none
  let rings ← Json.withDefault? none (Json.nullable? rings?) geometry
  let (number, word) ← Json.withDefault? (none, none) properties? properties
  return ⟨number, rings.bind footprintOf, word⟩

/-- Whether the feature identifies a building. -/
def hasKey (f : Feature) : Bool := f.number.isSome || f.footprint.isSome

end Feature

namespace CoverageSet

/-- Adds the building of a feature that has a number or a ring. -/
def addFeature (s : CoverageSet) (raw : Json) : Option CoverageSet :=
  match Feature.ofJson? raw with
  | none => some s
  | some f =>
    if f.hasKey then s.insert f.number f.footprint (.ofWord f.word) else some s

/-- The set of a list of features; of several with one key the last counts. There is none if the
area of a ring overflows. -/
def ofFeatures (features : List Json) : Option CoverageSet := features.foldlM addFeature empty

end CoverageSet

end Sightline
