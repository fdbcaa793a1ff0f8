
/-!
# Obstruction intervals

A scan along the link opens an interval at the first obstructed sample and closes it at the next
clear one, or at the last sample if none is clear.
-/

namespace Sightline

/-- A stretch of the link where the surface intrudes. -/
structure Interval (α : Type) where
  start : α
  stop : α
  deriving DecidableEq, Repr

/-- The distance from start to end. -/
def Interval.length {α : Type} [Sub α] (i : Interval α) : α := i.stop - i.start

/-- A sample of the scan: where it is, and how far the link is above the surface there. -/
structure Gap (α β : Type) where
  position : α
  margin : β
  deriving DecidableEq, Repr

variable {α β : Type} [LT β] [DecidableLT β] [OfNat β 0]

/-- Scans the rest of the samples; `start` is the position of an open interval. -/
def scanFrom (start : Option α) : List (Gap α β) → List (Interval α)
  | [] => []
  | gap :: rest =>
    if gap.margin < 0 then
      let first := start.getD gap.position
      if rest.isEmpty then [⟨first, gap.position⟩] else scanFrom (some first) rest
    else
      match start with
      | some first => ⟨first, gap.position⟩ :: scanFrom none rest
      | none => scanFrom none rest

/-- The intervals of consecutive samples with a negative margin; NaN is not negative. -/
def scan (gaps : List (Gap α β)) : List (Interval α) := scanFrom none gaps

end Sightline
