import Sightline.Assoc
import Sightline.Coverage.BuildingKey
import Sightline.Coverage.Status

/-!
# Coverage sets

The verdicts of one transmitter, or of several together, by building. The union of sets combines
the statuses of a building and keeps the footprint of the last set that has it.
-/

namespace Sightline

/-- The verdict for one building, and its outer ring if that is known. -/
structure CoverageRecord where
  footprint : Option Footprint
  status : CoverageStatus
  deriving DecidableEq, Repr

/-- How many buildings have each status. -/
structure CoverageSummary where
  serviceable : Nat
  unserviceable : Nat
  unknown : Nat
  deriving DecidableEq, Repr

/-- Records by building, in the order of the keys. -/
structure CoverageSet where
  rows : List (BuildingKey × CoverageRecord)
  sorted : Assoc.Sorted rows

namespace CoverageSet

instance : DecidableEq CoverageSet := fun s t =>
  decidable_of_iff (s.rows = t.rows) <| by
    obtain ⟨_, _⟩ := s
    obtain ⟨_, _⟩ := t
    simp

/-- The set without buildings. -/
def empty : CoverageSet := ⟨[], Assoc.sorted_nil⟩

/-- Puts a record under a key in place of any other. -/
def put (s : CoverageSet) (key : BuildingKey) (record : CoverageRecord) : CoverageSet :=
  ⟨Assoc.insert key record s.rows, s.sorted.insert key record⟩

def find? (s : CoverageSet) (key : BuildingKey) : Option CoverageRecord := Assoc.find? key s.rows

/-- Adds a building by its number or footprint, or replaces it. Without a key there is no result. -/
def insert (s : CoverageSet) (number : Option Nat) (footprint : Option Footprint)
    (status : CoverageStatus) : Option CoverageSet :=
  (BuildingKey.ofBuilding number (footprint.getD [])).map (s.put · ⟨footprint, status⟩)

def length (s : CoverageSet) : Nat := s.rows.length

/-- The status of a building; one that is not in the set is unknown. -/
def status (s : CoverageSet) (key : BuildingKey) : CoverageStatus :=
  ((s.find? key).map (·.status)).getD .unknown

/-- Whether the set has a verdict for the building. -/
def includes (s : CoverageSet) (key : BuildingKey) : Bool := s.status key != .unknown

def countStatus (s : CoverageSet) (status : CoverageStatus) : Nat :=
  s.rows.countP fun row => row.2.status = status

def summary (s : CoverageSet) : CoverageSummary :=
  ⟨s.countStatus .serviceable, s.countStatus .unserviceable, s.countStatus .unknown⟩

/-! ### Union -/

/-- Merges a record into the one that is there. -/
def joinRecord (present : Option CoverageRecord) (incoming : CoverageRecord) : CoverageRecord :=
  match present with
  | none => incoming
  | some record => ⟨incoming.footprint, record.status.combine incoming.status⟩

/-- Merges one row into a set. -/
def addRow (s : CoverageSet) (row : BuildingKey × CoverageRecord) : CoverageSet :=
  s.put row.1 (joinRecord (s.find? row.1) row.2)

/-- Merges a further set into a set. -/
def merge (s t : CoverageSet) : CoverageSet := t.rows.foldl addRow s

/-- The union of sets, merged in the order given. -/
def union (sets : List CoverageSet) : CoverageSet := sets.foldl merge empty

end CoverageSet

end Sightline
