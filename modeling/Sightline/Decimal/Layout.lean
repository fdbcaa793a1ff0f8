import Sightline.Decimal.Shortest

/-!
# Texts of doubles

Three texts are used in the library: the plain text of messages and keys, the text of a JSON
number, and a text with a fixed number of places. The first two share their digits and differ in
the decisions that `Layout` records.
-/

namespace Sightline.Decimal

/-- How shortest digits are laid out. -/
structure Layout where
  /-- Which of two equally short and equally near decimals is written. -/
  tie : Tie
  /-- Between which places after the first digit the point may stand without an exponent. -/
  positional : Option (Int × Int)
  /-- What follows the digits of a whole number. -/
  whole : List Char
  deriving DecidableEq, Repr

/-- The layout of messages and keys: never an exponent, and no point after a whole number. -/
def Layout.plain : Layout := ⟨.upward, none, []⟩

/-- The layout of JSON numbers: an exponent below `1e-5` and from `1e16` on. -/
def Layout.json : Layout := ⟨.toEven, some (-4, 16), ['.', '0']⟩

/-- Digits without an exponent, the point standing `point` places after the first digit. -/
def pointed (digits : List Char) (point : Int) (whole : List Char) : List Char :=
  if point ≤ 0 then
    '0' :: '.' :: (List.replicate (-point).toNat '0' ++ digits)
  else if digits.length ≤ point.toNat then
    digits ++ List.replicate (point.toNat - digits.length) '0' ++ whole
  else
    digits.take point.toNat ++ '.' :: digits.drop point.toNat

/-- Digits with an exponent: a point only after one of several digits, and always a sign. -/
def powered (digits : List Char) (point : Int) : List Char :=
  let exponent := point - 1
  let mantissa := match digits with
    | d :: r@(_ :: _) => d :: '.' :: r
    | ds => ds
  mantissa ++ 'e' :: (if exponent < 0 then '-' else '+') :: Nat.toDigits 10 exponent.natAbs

/-- The text of a number without a sign. -/
def Layout.size (l : Layout) (b : Binary) : List Char :=
  if b.mantissa = 0 then '0' :: l.whole else
  let shortest := b.shortest l.tie
  let digits := Nat.toDigits 10 shortest.significand
  let point := digits.length + shortest.exponent
  match l.positional with
  | none => pointed digits point l.whole
  | some (low, high) =>
    if low ≤ point ∧ point ≤ high then pointed digits point l.whole
    else powered digits point

/-- Puts the sign in front; zero keeps its sign. -/
def signed (negative : Bool) (text : List Char) : List Char :=
  if negative then '-' :: text else text

theorem mem_signed {negative : Bool} {text : List Char} {c : Char}
    (h : c ∈ signed negative text) : c = '-' ∨ c ∈ text := by
  cases negative with
  | false => exact .inr h
  | true => exact List.mem_cons.1 h

/-- The plain text of a double, `NaN` and `inf` included. -/
def plain (x : Float) : String :=
  match Reading.ofFloat x with
  | .nan => "NaN"
  | .infinite negative => String.ofList (signed negative ['i', 'n', 'f'])
  | .finite negative size => String.ofList (signed negative (Layout.plain.size size))

/-- The JSON text of a finite double; JSON has none for the others. -/
def json? (x : Float) : Option (List Char) :=
  match Reading.ofFloat x with
  | .finite negative size => some (signed negative (Layout.json.size size))
  | _ => none

/-- The quotient rounded to the nearest natural number, a half to the even neighbour. -/
def roundDiv (num den : Nat) : Nat :=
  let quotient := num / den
  match compare (2 * (num % den)) den with
  | .lt => quotient
  | .gt => quotient + 1
  | .eq => quotient + quotient % 2

/-- The value in units of `10 ^ -places`, rounded. -/
def Binary.rounded (places : Nat) (b : Binary) : Nat :=
  roundDiv (b.mantissa * Nat.pow 2 b.exponent.toNat * Nat.pow 10 places)
    (Nat.pow 2 (-b.exponent).toNat)

/-- The text with `places` digits after the point; a result of zero has no sign. -/
def fixed (places : Nat) (x : Float) : String :=
  match Reading.ofFloat x with
  | .nan => "NaN"
  | .infinite negative => String.ofList (signed negative ['i', 'n', 'f'])
  | .finite negative size =>
    let units := size.rounded places
    let fraction := Nat.toDigits 10 (units % Nat.pow 10 places)
    String.ofList <| signed (negative && units != 0) <|
      Nat.toDigits 10 (units / Nat.pow 10 places) ++
        '.' :: (List.replicate (places - fraction.length) '0' ++ fraction)

end Sightline.Decimal
