import Sightline.Decimal.Binary

/-!
# Numerals

Readers of whole numbers in base ten and sixteen, and of decimal fractions. Only ASCII digits
count.
-/

namespace Sightline.Text

/-- The value of a hexadecimal digit. -/
def hexValue? (c : Char) : Option Nat :=
  if '0' ≤ c ∧ c ≤ '9' then some (c.toNat - '0'.toNat)
  else if 'a' ≤ c ∧ c ≤ 'f' then some (c.toNat - 'a'.toNat + 10)
  else if 'A' ≤ c ∧ c ≤ 'F' then some (c.toNat - 'A'.toNat + 10)
  else none

/-- The number written by decimal digits. -/
def decimalValue (digits : List Char) : Nat :=
  digits.foldl (fun n c => 10 * n + (c.toNat - '0'.toNat)) 0

/-- The number written by hexadecimal digits; other characters are refused. -/
def hexNumber? (digits : List Char) : Option Nat :=
  digits.foldlM (fun n c => (hexValue? c).map (16 * n + ·)) 0

/-- The leading decimal digits and what follows them. -/
def spanDigits (cs : List Char) : List Char × List Char :=
  (cs.takeWhile Char.isDigit, cs.dropWhile Char.isDigit)

/-- A whole number up to `bound`: digits, with a plus sign or none. -/
def natUpTo? (bound : Nat) (cs : List Char) : Option Nat :=
  let digits := match cs with
    | '+' :: rest => rest
    | cs => cs
  if digits.isEmpty || !digits.all Char.isDigit then none
  else
    let n := decimalValue digits
    if n ≤ bound then some n else none

/-- The exponent at the end of a fraction, zero if there is none. -/
def exponent? : List Char → Option Int
  | [] => some 0
  | e :: cs =>
    if e = 'e' ∨ e = 'E' then
      let (negative, digits) := match cs with
        | '-' :: rest => (true, rest)
        | '+' :: rest => (false, rest)
        | cs => (false, cs)
      if digits.isEmpty || !digits.all Char.isDigit then none
      else
        let size : Int := decimalValue digits
        some (if negative then -size else size)
    else none

/-- The digits after a point, and what follows them. -/
def spanFraction : List Char → List Char × List Char
  | '.' :: cs => spanDigits cs
  | cs => ([], cs)

/-- A double without its sign: digits with a point anywhere among them and an exponent, or the
name of infinity or NaN in any case. -/
def size? (negative : Bool) (cs : List Char) : Option Float :=
  let word := String.ofList (cs.map Char.toLower)
  if word = "inf" ∨ word = "infinity" then some (if negative then -1 / 0 else 1 / 0)
  else if word = "nan" then some (0 / 0)
  else
    let (whole, rest) := spanDigits cs
    let (places, rest) := spanFraction rest
    if whole.isEmpty && places.isEmpty then none
    else (exponent? rest).map fun e =>
      Decimal.nearest negative (decimalValue (whole ++ places)) (e - places.length)

/-- A double with a sign or none. -/
def float? : List Char → Option Float
  | '-' :: cs => size? true cs
  | '+' :: cs => size? false cs
  | cs => size? false cs

end Sightline.Text
