/-!
# Doubles as exact numbers

A finite double is an exact binary fraction. This module reads the bits of a double into that
fraction, which is what the decimal texts of the library are computed from, and turns a decimal
`significand * 10 ^ exponent` into the nearest double.
-/

namespace Sightline.Decimal

/-- The number `mantissa * 2 ^ exponent`, without a sign. -/
structure Binary where
  mantissa : Nat
  exponent : Int
  /-- The mantissa is the least of its power of two, so the gap below it is half the gap above. -/
  narrowBelow : Bool
  deriving DecidableEq, Repr

/-- What the bits of a double stand for. -/
inductive Reading
  | nan
  | infinite (negative : Bool)
  | finite (negative : Bool) (size : Binary)
  deriving DecidableEq, Repr

/-- Reads a double: one sign bit, eleven exponent bits, fifty-two fraction bits. -/
def Reading.ofFloat (x : Float) : Reading :=
  let bits : Nat := x.toBits.toNat
  let negative := bits / Nat.pow 2 63 == 1
  let biased : Nat := bits / Nat.pow 2 52 % Nat.pow 2 11
  let fraction : Nat := bits % Nat.pow 2 52
  if biased = 2047 then
    if fraction = 0 then .infinite negative else .nan
  else if biased = 0 then
    .finite negative ⟨fraction, -1074, false⟩
  else
    .finite negative ⟨Nat.pow 2 52 + fraction, (biased : Int) - 1075, fraction = 0 ∧ 1 < biased⟩

/-- The nearest whole number, a half rounded up. -/
def Binary.whole (b : Binary) : Nat :=
  let unit := Nat.pow 2 (-b.exponent).toNat
  (2 * b.mantissa * Nat.pow 2 b.exponent.toNat + unit) / (2 * unit)

/-- The double nearest to `significand * 10 ^ exponent`, infinite beyond the largest one.
Exponents far outside the range of doubles are settled without computing the power. -/
def nearest (negative : Bool) (significand : Nat) (exponent : Int) : Float :=
  let magnitude := (Nat.toDigits 10 significand).length + exponent
  let size : Float :=
    if significand = 0 ∨ magnitude < -330 then 0
    else if 310 < magnitude then 1 / 0
    else OfScientific.ofScientific significand (exponent < 0) exponent.natAbs
  if negative then -size else size

end Sightline.Decimal
