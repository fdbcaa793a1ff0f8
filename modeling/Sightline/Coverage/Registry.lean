import Sightline.Coverage.CoverageSet

/-!
# Coverage registry

The coverage of each transmitter, in the order in which transmitters first had one, and the
transmitters whose coverage is shown.
-/

namespace Sightline

/-- Coverage by transmitter. -/
structure Registry where
  /-- Each transmitter once, in the order of its first coverage. -/
  entries : List (String × CoverageSet)
  /-- The transmitters shown; all of them if none is selected. -/
  selected : List String
  deriving DecidableEq

namespace Registry

def empty : Registry := ⟨[], []⟩

/-- Replaces the coverage of a transmitter, which keeps its place. -/
def put (transmitter : String) (set : CoverageSet) :
    List (String × CoverageSet) → List (String × CoverageSet)
  | [] => [(transmitter, set)]
  | (t, old) :: rest =>
    if t = transmitter then (t, set) :: rest else (t, old) :: put transmitter set rest

/-- Replaces the coverage of a transmitter, or adds it at the end. -/
def set (r : Registry) (transmitter : String) (coverage : CoverageSet) : Registry :=
  { r with entries := put transmitter coverage r.entries }

/-- Whether a transmitter has coverage. -/
def contains (r : Registry) (transmitter : String) : Bool :=
  r.entries.any fun e => e.1 = transmitter

/-- Forgets a transmitter, also in the selection. -/
def remove (r : Registry) (transmitter : String) : Registry :=
  ⟨r.entries.filter fun e => e.1 != transmitter, r.selected.filter (· != transmitter)⟩

/-- Selects the transmitters shown. -/
def select (r : Registry) (transmitters : List String) : Registry :=
  { r with selected := transmitters }

def find? (r : Registry) (transmitter : String) : Option CoverageSet :=
  (r.entries.find? fun e => e.1 = transmitter).map (·.2)

def transmitters (r : Registry) : List String := r.entries.map (·.1)

/-- Whether the coverage of a transmitter is shown. -/
def shows (r : Registry) (transmitter : String) : Bool :=
  r.selected.isEmpty || r.selected.contains transmitter

/-- The union of the coverage that is shown. -/
def view (r : Registry) : CoverageSet :=
  .union ((r.entries.filter fun e => r.shows e.1).map (·.2))

end Registry

end Sightline
