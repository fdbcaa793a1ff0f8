import Sightline.Decimal.Binary

/-!
# Building keys

A building is identified by its number, or by its footprint in a canonical form: rounded vertices
without repeats, counter-clockwise, starting at the least vertex.
-/

namespace Sightline

/-- The outer ring of a building: longitudes and latitudes of its vertices. -/
abbrev Footprint := List (Float × Float)

/-- A vertex in units of `1e-7` degrees. -/
structure Vertex where
  lng : Int
  lat : Int
  deriving DecidableEq, Repr

/-- Vertices are ordered by longitude, then by latitude. -/
instance : Ord Vertex := ⟨compareLex (compareOn Vertex.lng) (compareOn Vertex.lat)⟩

instance : Std.TransOrd Vertex :=
  inferInstanceAs (Std.TransCmp (compareLex (compareOn Vertex.lng) (compareOn Vertex.lat)))

instance : Std.LawfulEqOrd Vertex where
  eq_of_compare {v w} h := by
    obtain ⟨x, y⟩ := v
    obtain ⟨x', y'⟩ := w
    have h : (compare x x').then (compare y y') = .eq := h
    obtain ⟨hx, hy⟩ := Ordering.then_eq_eq.1 h
    rw [Std.LawfulEqCmp.eq_of_compare hx, Std.LawfulEqCmp.eq_of_compare hy]

/-- The identity of a building. -/
inductive BuildingKey
  | id (number : Nat)
  | ring (vertices : List Vertex)
  deriving DecidableEq, Repr

namespace BuildingKey

/-- Numbers come before rings. -/
def rank : BuildingKey → Nat
  | .id _ => 0
  | .ring _ => 1

/-- The number of a numbered building. -/
def number : BuildingKey → Nat
  | .id n => n
  | .ring _ => 0

/-- The vertices of a building without a number. -/
def vertices : BuildingKey → List Vertex
  | .id _ => []
  | .ring vs => vs

/-- Numbers ascend, and rings are ordered vertex by vertex. -/
instance : Ord BuildingKey := ⟨compareLex (compareOn rank) (compareLex (compareOn number)
  (compareOn vertices))⟩

instance : Std.TransOrd BuildingKey :=
  inferInstanceAs (Std.TransCmp (compareLex (compareOn rank) (compareLex (compareOn number)
    (compareOn vertices))))

instance : Std.LawfulEqOrd BuildingKey where
  eq_of_compare {j k} h := by
    have h : (compare j.rank k.rank).then
        ((compare j.number k.number).then (compare j.vertices k.vertices)) = .eq := h
    obtain ⟨hr, h⟩ := Ordering.then_eq_eq.1 h
    obtain ⟨hn, hv⟩ := Ordering.then_eq_eq.1 h
    have hr := Std.LawfulEqCmp.eq_of_compare hr
    have hn := Std.LawfulEqCmp.eq_of_compare hn
    have hv := Std.LawfulEqCmp.eq_of_compare hv
    cases j <;> cases k <;> simp_all [rank, number, vertices]

end BuildingKey

/-! ### Canonical rings -/

/-- A coordinate is at least minus this bound and less than it. -/
def coordinateBound : Nat := Nat.pow 2 63

/-- The coordinate nearest to a whole number. -/
def saturate (n : Int) : Int :=
  if n < -coordinateBound then -coordinateBound
  else if n < coordinateBound then n else coordinateBound - 1

/-- Degrees in units of `1e-7`, a half rounded away from zero, kept within 64 bits. -/
def quantize (degrees : Float) : Int :=
  match Decimal.Reading.ofFloat (degrees * 1e7) with
  | .nan => 0
  | .infinite negative => if negative then -coordinateBound else coordinateBound - 1
  | .finite negative size => saturate (if negative then -size.whole else size.whole)

theorem saturate_bounds (n : Int) :
    -coordinateBound ≤ saturate n ∧ saturate n < coordinateBound := by
  have hpos : 0 < coordinateBound := Nat.two_pow_pos 63
  unfold saturate
  split
  · omega
  · split <;> omega

theorem quantize_bounds (degrees : Float) :
    -coordinateBound ≤ quantize degrees ∧ quantize degrees < coordinateBound := by
  have hpos : 0 < coordinateBound := Nat.two_pow_pos 63
  unfold quantize
  split
  · omega
  · split <;> omega
  · exact saturate_bounds _

/-- A vertex with both coordinates rounded. -/
def quantizeVertex (p : Float × Float) : Vertex := ⟨quantize p.1, quantize p.2⟩

/-- Drops every vertex equal to the one before it. -/
def dropRepeats : List Vertex → List Vertex
  | [] => []
  | [v] => [v]
  | v :: w :: rest => if v = w then dropRepeats (w :: rest) else v :: dropRepeats (w :: rest)

/-- Drops a last vertex that closes the ring. -/
def dropClosing (vertices : List Vertex) : List Vertex :=
  if 1 < vertices.length ∧ vertices.head? = vertices.getLast? then vertices.dropLast else vertices

/-- The sides of a ring: each vertex with the next one around. -/
def sides (vertices : List Vertex) : List (Vertex × Vertex) :=
  vertices.zip (vertices.drop 1 ++ vertices.take 1)

/-- A signed word of 128 bits is at least minus this bound and less than it. -/
def wordBound : Nat := Nat.pow 2 127

/-- A number that a signed word of 128 bits holds. -/
def FitsWord (n : Int) : Prop := -wordBound ≤ n ∧ n < wordBound

instance (n : Int) : Decidable (FitsWord n) := inferInstanceAs (Decidable (_ ∧ _))

/-- The result of one step of word arithmetic, which stops where it overflows. -/
def word? (n : Int) : Option Int := if FitsWord n then some n else none

/-- The cross product of two vertices, every step of it in a word. -/
def crossWord? (v w : Vertex) : Option Int := do
  let ahead ← word? (v.lng * w.lat)
  let back ← word? (w.lng * v.lat)
  word? (ahead - back)

/-- Twice the signed area, every step of it in a word: positive for a counter-clockwise ring; less
than three vertices have no area. -/
def wordArea? (vertices : List Vertex) : Option Int :=
  if vertices.length < 3 then some 0
  else (sides vertices).foldlM
    (fun total side => do word? (total + (← crossWord? side.1 side.2))) 0

/-- Turns a ring around whose area is negative. -/
def orient (area : List Vertex → Int) (vertices : List Vertex) : List Vertex :=
  if area vertices < 0 then vertices.reverse else vertices

/-- The place of the first least vertex. -/
def leastIndex : List Vertex → Nat
  | [] => 0
  | v :: rest => if rest.any fun w => compare w v = .lt then leastIndex rest + 1 else 0

/-- Rotates the ring to its first least vertex. -/
def startAtLeast (vertices : List Vertex) : List Vertex := vertices.rotateLeft (leastIndex vertices)

/-- The vertices of a ring, each once in a row and without a closing vertex. -/
def outline (vertices : List Vertex) : List Vertex := dropClosing (dropRepeats vertices)

/-- The canonical form of a ring of rounded vertices, whose winding is read off `area`. -/
def canonical (area : List Vertex → Int) (vertices : List Vertex) : List Vertex :=
  startAtLeast (orient area (outline vertices))

namespace BuildingKey

/-- The vertices that a footprint keeps. -/
def corners (ring : Footprint) : List Vertex := outline (ring.map quantizeVertex)

/-- The key of a footprint; there is none if its area overflows. -/
def ofFootprint (ring : Footprint) : Option BuildingKey := do
  let area ← wordArea? (corners ring)
  return .ring (canonical (fun _ => area) (ring.map quantizeVertex))

/-- The number if there is one, otherwise the footprint. -/
def ofBuilding (number : Option Nat) (ring : Footprint) : Option BuildingKey :=
  match number with
  | some n => some (.id n)
  | none => ofFootprint ring

end BuildingKey

end Sightline
