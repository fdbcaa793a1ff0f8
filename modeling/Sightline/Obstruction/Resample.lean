/-!
# Piecewise linear resampling

Known points are resampled on other abscissas. The segment of a target is found by binary search;
targets beyond the known points continue the first or the last segment.
-/

namespace Sightline

variable {α : Type}

/-- Binary search for the number of leading abscissas below `x`, among `size` points from `base`
on. For ascending abscissas it is exact. -/
def countBelowFrom [LT α] [DecidableLT α] (knots : Array (α × α)) (x : α) (base size : Nat)
    (inside : base + size ≤ knots.size) (pos : 0 < size) : Nat :=
  if one : size = 1 then
    if knots[base].1 < x then base + 1 else base
  else
    let half := size / 2
    have bound : base + half < knots.size := by omega
    if knots[base + half].1 < x then
      countBelowFrom knots x (base + half) (size - half) (by omega) (by omega)
    else
      countBelowFrom knots x base (size - half) (by omega) (by omega)
termination_by size

/-- The number of leading abscissas below `x`. -/
def countBelow [LT α] [DecidableLT α] (knots : Array (α × α)) (x : α) : Nat :=
  if h : 0 < knots.size then countBelowFrom knots x 0 knots.size (by omega) h else 0

variable [Add α] [Sub α] [Mul α] [Div α] [BEq α]

/-- The line through two points at `x`; the first ordinate if they share their abscissa. -/
def lineThrough (p q : α × α) (x : α) : α :=
  if q.1 == p.1 then p.2 else p.2 + (x - p.1) * (q.2 - p.2) / (q.1 - p.1)

/-- The value at `x` on the segment that brackets it, or the end segment nearest to it. -/
def valueAt [LT α] [DecidableLT α] (knots : Array (α × α)) (two : 2 ≤ knots.size) (x : α) : α :=
  let first := min (countBelow knots x - 1) (knots.size - 2)
  have bound : first + 1 < knots.size := by omega
  lineThrough knots[first] knots[first + 1] x

/-- Resamples known points on the targets. One known point gives a constant, none gives nothing. -/
def resample [LT α] [DecidableLT α] (targets xs ys : List α) : List α :=
  let knots := (xs.zip ys).toArray
  if two : 2 ≤ knots.size then targets.map (valueAt knots two)
  else match knots.toList with
    | p :: _ => targets.map fun _ => p.2
    | [] => []

end Sightline
