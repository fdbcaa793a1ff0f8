import Sightline.Decimal.Binary
import Sightline.Json.Basic
import Sightline.Text.Numeral

/-!
# JSON texts

`Tree.parse?` reads a text by the grammar alone: numerals keep their digits, strings keep
surrogates that stand alone, objects keep the order and number of their members. What a member
means is decided later, so an ignored member may hold a number or a string that no value has.
`Tree.value?` makes the value of a tree, with a bound on the nesting.
-/

namespace Sightline.Json

/-- A numeral: `significand * 10 ^ exponent`, and whether it has neither point nor exponent. -/
structure Numeral where
  negative : Bool
  significand : Nat
  exponent : Int
  whole : Bool
  deriving DecidableEq, Repr

/-- A character of a string literal, or half of a surrogate pair. -/
inductive Piece
  | char (c : Char)
  | surrogate (code : Nat)
  deriving DecidableEq, Repr

/-- A JSON text as it is written. -/
inductive Tree where
  | null
  | bool (value : Bool)
  | numeral (value : Numeral)
  | str (pieces : List Piece)
  | arr (items : List Tree)
  | obj (members : List (List Piece × Tree))
  deriving Inhabited

/-! ### Numerals -/

/-- The integer part of a numeral: a zero alone, or digits that start with another one. -/
def readInteger : List Char → Option (List Char × List Char)
  | '0' :: rest => some (['0'], rest)
  | cs =>
    match Text.spanDigits cs with
    | ([], _) => none
    | digits => some digits

/-- The digits after a point, if there is a point. -/
def readFraction : List Char → Option (Option (List Char) × List Char)
  | '.' :: cs =>
    match Text.spanDigits cs with
    | ([], _) => none
    | (digits, rest) => some (some digits, rest)
  | cs => some (none, cs)

/-- The digits of an exponent after its sign. -/
def readPower (negative : Bool) (cs : List Char) : Option (Option Int × List Char) :=
  match Text.spanDigits cs with
  | ([], _) => none
  | (digits, rest) =>
    let size : Int := Text.decimalValue digits
    some (some (if negative then -size else size), rest)

/-- The exponent, if there is one. -/
def readExponent (cs : List Char) : Option (Option Int × List Char) :=
  match cs with
  | [] => some (none, [])
  | c :: rest =>
    if c = 'e' ∨ c = 'E' then
      match rest with
      | '-' :: digits => readPower true digits
      | '+' :: digits => readPower false digits
      | digits => readPower false digits
    else some (none, cs)

/-- A numeral without its sign. -/
def readSize (negative : Bool) (cs : List Char) : Option (Numeral × List Char) := do
  let (integer, cs) ← readInteger cs
  let (fraction, cs) ← readFraction cs
  let (power, cs) ← readExponent cs
  let places := fraction.getD []
  return (⟨negative, Text.decimalValue (integer ++ places), power.getD 0 - places.length,
    fraction.isNone && power.isNone⟩, cs)

/-- A numeral. -/
def readNumeral : List Char → Option (Numeral × List Char)
  | '-' :: cs => readSize true cs
  | cs => readSize false cs

/-! ### Strings -/

/-- The escape after a backslash. -/
def readEscape : List Char → Option (Piece × List Char)
  | '"' :: cs => some (.char '"', cs)
  | '\\' :: cs => some (.char '\\', cs)
  | '/' :: cs => some (.char '/', cs)
  | 'b' :: cs => some (.char '\x08', cs)
  | 'f' :: cs => some (.char '\x0c', cs)
  | 'n' :: cs => some (.char '\n', cs)
  | 'r' :: cs => some (.char '\r', cs)
  | 't' :: cs => some (.char '\t', cs)
  | 'u' :: a :: b :: c :: d :: cs => do
    let code ← Text.hexNumber? [a, b, c, d]
    let piece := if 0xD800 ≤ code ∧ code < 0xE000 then .surrogate code else .char (Char.ofNat code)
    return (piece, cs)
  | _ => none

/-- The rest of a string literal after its opening quote; at most `fuel` pieces are read. -/
def readPieces : Nat → List Char → Option (List Piece × List Char)
  | 0, _ => none
  | _ + 1, [] => none
  | _ + 1, '"' :: cs => some ([], cs)
  | fuel + 1, '\\' :: cs => do
    let (piece, cs) ← readEscape cs
    let (pieces, cs) ← readPieces fuel cs
    return (piece :: pieces, cs)
  | fuel + 1, c :: cs => do
    if c.toNat < 0x20 then none else
      let (pieces, cs) ← readPieces fuel cs
      return (.char c :: pieces, cs)

/-- The text of a string literal: pairs of surrogates are joined, one alone has no text. -/
def joinPieces : List Piece → Option (List Char)
  | [] => some []
  | .char c :: rest => (joinPieces rest).map (c :: ·)
  | .surrogate high :: .surrogate low :: rest =>
    if high < 0xDC00 ∧ 0xDC00 ≤ low then
      (joinPieces rest).map
        (Char.ofNat (0x10000 + (high - 0xD800) * 0x400 + (low - 0xDC00)) :: ·)
    else none
  | .surrogate _ :: _ => none

/-! ### Trees -/

/-- White space between the parts of a text. -/
def isSpace (c : Char) : Bool := c = ' ' || c = '\t' || c = '\n' || c = '\r'

/-- Drops white space. -/
def skipSpace (cs : List Char) : List Char := cs.dropWhile isSpace

/-- Drops a word that has to come next. -/
def readWord {α : Type} (word : List Char) (meaning : α) (cs : List Char) :
    Option (α × List Char) :=
  if word.isPrefixOf cs then some (meaning, cs.drop word.length) else none

mutual

/-- The next value of a text. Every call takes one unit of fuel. -/
def readTree : Nat → List Char → Option (Tree × List Char)
  | 0, _ => none
  | fuel + 1, cs =>
    match skipSpace cs with
    | 'n' :: cs => readWord "ull".toList .null cs
    | 't' :: cs => readWord "rue".toList (.bool true) cs
    | 'f' :: cs => readWord "alse".toList (.bool false) cs
    | '"' :: cs => (readPieces fuel cs).map fun r => (.str r.1, r.2)
    | '[' :: cs =>
      match skipSpace cs with
      | ']' :: cs => some (.arr [], cs)
      | cs => (readItems fuel cs).map fun r => (.arr r.1, r.2)
    | '\x7b' :: cs =>
      match skipSpace cs with
      | '\x7d' :: cs => some (.obj [], cs)
      | cs => (readMembers fuel cs).map fun r => (.obj r.1, r.2)
    | cs => (readNumeral cs).map fun r => (.numeral r.1, r.2)

/-- One or more items up to the closing bracket. -/
def readItems : Nat → List Char → Option (List Tree × List Char)
  | 0, _ => none
  | fuel + 1, cs => do
    let (item, cs) ← readTree fuel cs
    match skipSpace cs with
    | ',' :: cs =>
      let (items, cs) ← readItems fuel cs
      return (item :: items, cs)
    | ']' :: cs => return ([item], cs)
    | _ => none

/-- One or more members up to the closing brace. -/
def readMembers : Nat → List Char → Option (List (List Piece × Tree) × List Char)
  | 0, _ => none
  | fuel + 1, cs => do
    let '"' :: cs := skipSpace cs | none
    let (key, cs) ← readPieces fuel cs
    let ':' :: cs := skipSpace cs | none
    let (value, cs) ← readTree fuel cs
    match skipSpace cs with
    | ',' :: cs =>
      let (members, cs) ← readMembers fuel cs
      return ((key, value) :: members, cs)
    | '\x7d' :: cs => return ([(key, value)], cs)
    | _ => none

end

/-- The tree of a whole text; nothing but white space may follow the value. Every character
takes at most two units of fuel. -/
def Tree.parse? (text : List Char) : Option Tree := do
  let (tree, rest) ← readTree (2 * text.length + 2) text
  if (skipSpace rest).isEmpty then some tree else none

/-! ### Values -/

/-- The value of a numeral: a whole number of at most 64 bits, or a double. Minus zero is a
double, and a number beyond the largest double has no value. -/
def Numeral.value? (n : Numeral) : Option Json :=
  if n.whole ∧ n.negative = false ∧ n.significand < UInt64.size then
    some (.int n.significand)
  else if n.whole ∧ n.negative ∧ 0 < n.significand ∧
      n.significand ≤ Int64.minValue.toInt.natAbs then
    some (.int (-n.significand))
  else
    let x := Decimal.nearest n.negative n.significand n.exponent
    if x.isFinite then some (.float x) else none

mutual

/-- The value of a tree with at most `room` arrays and objects inside each other. -/
def Tree.value? (room : Nat) : Tree → Option Json
  | .null => some .null
  | .bool b => some (.bool b)
  | .numeral n => n.value?
  | .str pieces => (joinPieces pieces).map fun cs => .str (String.ofList cs)
  | .arr items =>
    match room with
    | 0 => none
    | room + 1 => (itemValues? room items).map .arr
  | .obj members =>
    match room with
    | 0 => none
    | room + 1 => (memberValues? room members).map ofMembers

/-- The values of the items of an array. -/
def itemValues? (room : Nat) : List Tree → Option (List Json)
  | [] => some []
  | tree :: rest => do
    let item ← tree.value? room
    let items ← itemValues? room rest
    return item :: items

/-- The members of an object in the order of the text. -/
def memberValues? (room : Nat) : List (List Piece × Tree) → Option (List (String × Json))
  | [] => some []
  | (key, tree) :: rest => do
    let name ← joinPieces key
    let value ← tree.value? room
    let members ← memberValues? room rest
    return (String.ofList name, value) :: members

end

/-- How many arrays and objects a frame may nest. -/
def nestingLimit : Nat := 127

/-- The value of a text with a bound on its nesting. -/
def parseWithin? (room : Nat) (text : String) : Option Json :=
  (Tree.parse? text.toList).bind (Tree.value? room)

/-- The value of a text. -/
def parse? (text : String) : Option Json := parseWithin? nestingLimit text

end Sightline.Json
