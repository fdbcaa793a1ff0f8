import Sightline.Assoc

/-!
# JSON values

Whole numbers that fit a signed or unsigned 64-bit word are kept apart from doubles. The members
of an object are sorted by key, each key once.
-/

namespace Sightline

/-- A JSON value. -/
inductive Json where
  | null
  | bool (value : Bool)
  | int (value : Int)
  | float (value : Float)
  | str (value : String)
  | arr (items : List Json)
  | obj (members : List (String × Json))
  deriving Inhabited

namespace Json

/-- The object with the given members; of several with one key the last counts. -/
def ofMembers (members : List (String × Json)) : Json := .obj (Assoc.ofList members)

/-- A natural number as a value. -/
def nat (n : Nat) : Json := .int n

/-- A double as a value; one that is not finite becomes `null`. -/
def ofFloat (x : Float) : Json := if x.isFinite then .float x else .null

/-- A pair of doubles. -/
def ofPair (p : Float × Float) : Json := .arr [ofFloat p.1, ofFloat p.2]

/-! ### Views

Each view answers `none` for a value of another shape. -/

def bool? : Json → Option Bool
  | .bool b => some b
  | _ => none

def str? : Json → Option String
  | .str s => some s
  | _ => none

/-- Any number as a double. -/
def float? : Json → Option Float
  | .int n => some (Float.ofInt n)
  | .float x => some x
  | _ => none

/-- A whole number from zero to `bound`; a double is refused even when it has a whole value. -/
def natUpTo? (bound : Nat) : Json → Option Nat
  | .int n => if 0 ≤ n ∧ n ≤ bound then some n.toNat else none
  | _ => none

def arr? : Json → Option (List Json)
  | .arr items => some items
  | _ => none

/-- The items of an array, each read by `item`. -/
def list? {α : Type} (item : Json → Option α) (v : Json) : Option (List α) :=
  v.arr?.bind fun items => items.mapM item

/-- An array of exactly two numbers. -/
def pair? (v : Json) : Option (Float × Float) :=
  match v with
  | .arr [x, y] => do return (← x.float?, ← y.float?)
  | _ => none

/-- The member of an object with a key. -/
def member? (key : String) : Json → Option Json
  | .obj members => Assoc.find? key members
  | _ => none

/-- The values of named fields: the members of an object, whatever else it holds, or the items of
an array in the order of the names, which may end early but not be longer. -/
def fields? (names : List String) : Json → Option (List (Option Json))
  | .obj members => some (names.map fun name => Assoc.find? name members)
  | .arr items =>
    if items.length ≤ names.length then
      some (items.map some ++ List.replicate (names.length - items.length) none)
    else none
  | _ => none

/-- A field that is read only where it is present. -/
def withDefault? {α : Type} (initial : α) (read : Json → Option α) : Option Json → Option α
  | none => some initial
  | some v => read v

/-- A value that may be written `null`. -/
def nullable? {α : Type} (read : Json → Option α) : Json → Option (Option α)
  | .null => some none
  | v => (read v).map some

/-- A member with a default for its absence. -/
def field? {α : Type} (v : Json) (key : String) (initial : α) (read : Json → Option α) : Option α :=
  withDefault? initial read (v.member? key)

/-- A member that may be absent or `null`. -/
def optional? {α : Type} (v : Json) (key : String) (read : Json → Option α) : Option (Option α) :=
  v.field? key none (nullable? read)

/-- A member that has to be there. -/
def required? {α : Type} (v : Json) (key : String) (read : Json → Option α) : Option α :=
  (v.member? key).bind read

end Json

end Sightline
