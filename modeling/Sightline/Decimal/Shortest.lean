import Sightline.Decimal.Binary

/-!
# Shortest decimals

Every decimal in the interval of reals that round to a double reads back as that double. Of these
the shortest is the one on the coarsest decimal grid that meets the interval, and of two such
neighbours the nearer; only an exact tie is left to the caller.
-/

namespace Sightline.Decimal

/-- The decimal `significand * 10 ^ exponent`. -/
structure Digits where
  significand : Nat
  exponent : Int
  deriving DecidableEq, Repr

/-- Which of two equally near neighbours is taken. -/
inductive Tie
  | toEven
  | upward
  deriving DecidableEq, Repr

namespace Binary

/-- Quarters of the last binary place that the interval reaches down and up. -/
def reach (b : Binary) : Nat × Nat := (if b.narrowBelow then 1 else 2, 2)

/-- `quarters` quarters of the last binary place, counted in grid steps `10 ^ k / step b k`. -/
def scaled (b : Binary) (k : Int) (quarters : Nat) : Nat :=
  quarters * Nat.pow 2 (b.exponent - 2).toNat * Nat.pow 10 (-k).toNat

/-- One step of the grid of multiples of `10 ^ k`, on the scale of `scaled`. -/
def step (b : Binary) (k : Int) : Nat := Nat.pow 10 k.toNat * Nat.pow 2 (2 - b.exponent).toNat

/-- Whether `c * 10 ^ k` rounds to the value; the ends belong to the interval iff the mantissa
is even. -/
def contains (b : Binary) (k : Int) (c : Nat) : Bool :=
  let low := b.scaled k (4 * b.mantissa - b.reach.1)
  let high := b.scaled k (4 * b.mantissa + b.reach.2)
  let point := c * b.step k
  if b.mantissa % 2 = 0 then low ≤ point && point ≤ high else low < point && point < high

/-- The multiple of `10 ^ k` nearest to the value among its two neighbours that read back. -/
def onGrid (tie : Tie) (b : Binary) (k : Int) : Option Digits :=
  let value := b.scaled k (4 * b.mantissa)
  let unit := b.step k
  let below := value / unit
  let rest := value % unit
  match b.contains k below, b.contains k (below + 1) with
  | false, false => none
  | true, false => some ⟨below, k⟩
  | false, true => some ⟨below + 1, k⟩
  | true, true =>
    let up := match compare (2 * rest) unit, tie with
      | .lt, _ => false
      | .gt, _ => true
      | .eq, .upward => true
      | .eq, .toEven => below % 2 = 1
    some ⟨if up then below + 1 else below, k⟩

/-- A grid coarser than the value: its step is more than `2 ^ (exponent + bits of the mantissa)`. -/
def coarsest (b : Binary) : Int :=
  (b.exponent + b.mantissa.log2 + 1) * 30103 / 100000 + 2

/-- All digits of the value. -/
def exact (b : Binary) : Digits :=
  if b.exponent < 0 then ⟨b.mantissa * Nat.pow 5 b.exponent.natAbs, b.exponent⟩
  else ⟨b.mantissa * Nat.pow 2 b.exponent.toNat, 0⟩

/-- The shortest digits of a positive value, found on the first grid that meets its interval.
Twenty-one grids reach past the seventeen digits that always suffice. -/
def shortest (tie : Tie) (b : Binary) : Digits :=
  ((List.range 21).findSome? fun (i : Nat) => b.onGrid tie (b.coarsest - i)).getD b.exact

end Binary

end Sightline.Decimal
