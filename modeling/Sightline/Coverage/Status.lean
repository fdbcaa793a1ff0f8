/-!
# Coverage status

Whether a transmitter can serve a building. Statuses of several transmitters are combined: one
that serves settles the building, and one that is unknown leaves it open.
-/

namespace Sightline

/-- The verdict for a building. -/
inductive CoverageStatus
  | serviceable
  | unserviceable
  | unknown
  deriving DecidableEq, Repr, Inhabited

namespace CoverageStatus

def all : List CoverageStatus := [.serviceable, .unserviceable, .unknown]

/-- The verdict where nothing is known. -/
def initial : CoverageStatus := .unknown

def name : CoverageStatus → String
  | .serviceable => "serviceable"
  | .unserviceable => "unserviceable"
  | .unknown => "unknown"

/-- Merges a further status into the present one. -/
def combine : CoverageStatus → CoverageStatus → CoverageStatus
  | .serviceable, _ => .serviceable
  | .unserviceable, s => s
  | .unknown, .serviceable => .serviceable
  | .unknown, _ => .unknown

/-- Reads a status word of a feature; every other word, or none, means unknown. -/
def ofWord (word : Option String) : CoverageStatus :=
  match word with
  | some "serviceable" => .serviceable
  | some "unserviceable" => .unserviceable
  | _ => .unknown

end CoverageStatus

end Sightline
