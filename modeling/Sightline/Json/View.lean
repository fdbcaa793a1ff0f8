import Sightline.Json.Tree

/-!
# Views of JSON texts

Values of fixed types are read straight from the tree of a text. Only what a type asks for has to
have a value; members that a record does not know are passed over.
-/

namespace Sightline.Json.Tree

/-- The text of a string. -/
def str? : Tree → Option String
  | .str pieces => (joinPieces pieces).map String.ofList
  | _ => none

def float? : Tree → Option Float
  | .numeral n => n.value?.bind Json.float?
  | _ => none

/-- A whole number between two bounds; minus zero is not whole. -/
def intWithin? (low high : Int) : Tree → Option Int
  | .numeral n =>
    match n.value? with
    | some (.int i) => if low ≤ i ∧ i ≤ high then some i else none
    | _ => none
  | _ => none

/-- The items of an array, each read by `item`. -/
def list? {α : Type} (item : Tree → Option α) : Tree → Option (List α)
  | .arr items => items.mapM item
  | _ => none

/-- The name and the value of an object with one member. -/
def single? : Tree → Option (String × Tree)
  | .obj [(key, value)] => (joinPieces key).map fun name => (String.ofList name, value)
  | _ => none

/-- The name of a constant: a string, or an object that gives `null` under the name. -/
def constant? (t : Tree) : Option String :=
  match t with
  | .str _ => t.str?
  | t =>
    match t.single? with
    | some (name, .null) => some name
    | _ => none

/-- The members of an object with the texts of their names. -/
def namedMembers? (members : List (List Piece × Tree)) : Option (List (String × Tree)) :=
  members.mapM fun m => (joinPieces m.1).map fun name => (String.ofList name, m.2)

/-- The values of the fields of a record: of an object that has each name once, or of an array
with one item for each name. -/
def record? (names : List String) : Tree → Option (List Tree)
  | .arr items => if items.length = names.length then some items else none
  | .obj members => do
    let named ← namedMembers? members
    names.mapM fun name =>
      match named.filter (·.1 = name) with
      | [(_, value)] => some value
      | _ => none
  | _ => none

end Sightline.Json.Tree
