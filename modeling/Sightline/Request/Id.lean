/-!
# Request identifiers

An identifier is a 128-bit word, written as thirty-two hexadecimal digits in five groups.
-/

namespace Sightline

/-- The identifier of one request. -/
structure RequestId where
  word : BitVec 128
  deriving DecidableEq, Repr

namespace RequestId

/-- The hexadecimal digits of a word, `count` of them, the most significant first. -/
def hexDigits (word : Nat) : Nat → List Char
  | 0 => []
  | count + 1 => hexDigits (word / 16) count ++ (Nat.toDigits 16 (word % 16))

/-- The digits in groups of eight, four, four, four and twelve. -/
def render (id : RequestId) : List Char :=
  let digits := hexDigits id.word.toNat 32
  let group (start length : Nat) := (digits.drop start).take length
  group 0 8 ++ '-' :: group 8 4 ++ '-' :: group 12 4 ++ '-' :: group 16 4 ++ '-' :: group 20 12

/-- The text of an identifier. -/
def text (id : RequestId) : String := String.ofList id.render

end RequestId

end Sightline
