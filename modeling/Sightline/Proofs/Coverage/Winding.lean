import Mathlib.Algebra.BigOperators.Group.List.Basic
import Mathlib.Algebra.Order.BigOperators.Group.List
import Mathlib.Tactic.Linarith
import Mathlib.Tactic.Ring
import Sightline.Coverage.Feature
import Sightline.Proofs.Coverage.Outline

/-!
# The area of a ring

The signed area is the sum of the cross products around the ring. It keeps its size from every
vertex and either way round, and changes its sign with the direction.

The key of a footprint adds it up in signed words of 128 bits. The coordinates are words of 64 bits,
so no product and no difference of two products overflows, but two cross products may already fill a
word. The sum stops at the first partial sum that does not fit, and there is no key; otherwise both
are exact (`winding_exact_iff`).
-/

namespace Sightline

variable {vs ws : List Vertex} {v w : Vertex} {terms : List Int} {n start : Int}

/-! ### Area -/

/-- The cross product of two vertices. -/
def cross (v w : Vertex) : Int := v.lng * w.lat - w.lng * v.lat

/-- The cross products of the sides, around the ring. -/
def crossTerms (vs : List Vertex) : List Int := (sides vs).map fun side => cross side.1 side.2

/-- Twice the signed area, positive for a counter-clockwise ring; less than three vertices have
no area. -/
def signedArea (vs : List Vertex) : Int := if vs.length < 3 then 0 else (crossTerms vs).sum

theorem sides_eq_zip_rotate (vs : List Vertex) : sides vs = vs.zip (vs.rotate 1) := by
  cases vs <;> simp [sides]

theorem mem_of_mem_sides {side : Vertex × Vertex} (h : side ∈ sides vs) :
    side.1 ∈ vs ∧ side.2 ∈ vs := by
  rw [sides_eq_zip_rotate] at h
  obtain ⟨hfirst, hsecond⟩ := List.of_mem_zip h
  exact ⟨hfirst, List.mem_rotate.1 hsecond⟩

theorem crossTerms_eq_zipWith (vs : List Vertex) :
    crossTerms vs = List.zipWith cross vs (vs.rotate 1) := by
  rw [crossTerms, sides_eq_zip_rotate, List.zip, List.map_zipWith]

theorem crossTerms_rotate (vs : List Vertex) (n : Nat) :
    crossTerms (vs.rotate n) = (crossTerms vs).rotate n := by
  rw [crossTerms_eq_zipWith, crossTerms_eq_zipWith, List.rotate_rotate, Nat.add_comm n 1,
    ← List.rotate_rotate, List.zipWith_rotate_distrib cross _ _ _ (List.length_rotate ..).symm]

theorem sum_crossTerms_rotate (vs : List Vertex) (n : Nat) :
    (crossTerms (vs.rotate n)).sum = (crossTerms vs).sum := by
  rw [crossTerms_rotate]
  exact (List.rotate_perm _ n).sum_eq

theorem cross_swap (v w : Vertex) : cross w v = -cross v w := by
  unfold cross
  ring

theorem sum_zipWith_cross_swap (vs ws : List Vertex) :
    (List.zipWith cross ws vs).sum = -(List.zipWith cross vs ws).sum := by
  induction vs generalizing ws with
  | nil => simp
  | cons v vs ih =>
    cases ws with
    | nil => simp
    | cons w ws =>
      simp only [List.zipWith_cons_cons, List.sum_cons, ih, cross_swap v w]
      ring

theorem reverse_rotate_one (vs : List Vertex) : (vs.rotate 1).reverse.rotate 1 = vs.reverse := by
  cases vs <;> simp

/-- Against the direction of the ring, every edge counts with the other sign. -/
theorem sum_crossTerms_reverse (vs : List Vertex) :
    (crossTerms vs.reverse).sum = -(crossTerms vs).sum := by
  have hlength : (vs.rotate 1).length = vs.length := List.length_rotate ..
  calc (crossTerms vs.reverse).sum
      = (crossTerms (vs.rotate 1).reverse).sum := by
        rw [← reverse_rotate_one, sum_crossTerms_rotate]
    _ = (List.zipWith cross (vs.rotate 1) vs).reverse.sum := by
        rw [crossTerms_eq_zipWith, reverse_rotate_one, List.reverse_zipWith hlength]
    _ = (List.zipWith cross (vs.rotate 1) vs).sum := List.sum_reverse _
    _ = -(crossTerms vs).sum := by rw [sum_zipWith_cross_swap, crossTerms_eq_zipWith]

theorem signedArea_eq_of_isRotated (h : vs ~r ws) :
    signedArea ws = signedArea vs := by
  obtain ⟨n, rfl⟩ := h
  simp only [signedArea, List.length_rotate, sum_crossTerms_rotate]

theorem signedArea_reverse (vs : List Vertex) : signedArea vs.reverse = -signedArea vs := by
  simp only [signedArea, List.length_reverse, sum_crossTerms_reverse]
  split <;> simp

/-! ### Words -/

theorem word?_of_fits (h : FitsWord n) : word? n = some n := if_pos h

theorem word?_of_not_fits (h : ¬ FitsWord n) : word? n = none := if_neg h

theorem fitsWord_zero : FitsWord 0 := by decide +kernel

theorem fitsWord_of_natAbs_lt (h : n.natAbs < wordBound) : FitsWord n := by
  constructor <;> omega

/-! ### Sums -/

/-- The sum fits at every step. -/
def SumsFit (terms : List Int) : Prop := ∀ first, first <+: terms → FitsWord first.sum

theorem forall_prefix_cons {P : List Int → Prop} {term : Int} :
    (∀ first, first <+: term :: terms → P first) ↔
      P [] ∧ ∀ first, first <+: terms → P (term :: first) := by
  constructor
  · intro h
    exact ⟨h [] List.nil_prefix, fun first hfirst => h _ (List.cons_prefix_cons.2 ⟨rfl, hfirst⟩)⟩
  · rintro ⟨hnil, hcons⟩ first hfirst
    rcases List.prefix_cons_iff.1 hfirst with rfl | ⟨rest, rfl, hrest⟩
    · exact hnil
    · exact hcons rest hrest

/-- The sum stops where it does not fit, if its terms do not stop it. -/
theorem foldlM_word? {α : Type} {all : List α} {step : α → Option Int} {term : α → Int}
    (hstep : ∀ a ∈ all, step a = some (term a)) (hstart : FitsWord start) {total : Int} :
    all.foldlM (fun total a => do word? (total + (← step a))) start = some total ↔
      (∀ first, first <+: all.map term → FitsWord (start + first.sum)) ∧
        total = start + (all.map term).sum := by
  induction all generalizing start with
  | nil => simp [hstart, eq_comm]
  | cons a all ih =>
    rw [List.foldlM_cons, hstep a List.mem_cons_self, List.map_cons, forall_prefix_cons]
    simp only [Option.bind_eq_bind, Option.bind_some]
    by_cases hterm : FitsWord (start + term a)
    · have hrest := ih (fun a ha => hstep a (List.mem_cons_of_mem _ ha)) hterm
      simp only [Option.bind_eq_bind] at hrest
      rw [word?_of_fits hterm, Option.bind_some, hrest]
      simp only [List.sum_nil, List.sum_cons, add_zero, ← add_assoc, hstart, true_and]
    · rw [word?_of_not_fits hterm, Option.bind_none]
      refine iff_of_false (by simp) ?_
      rintro ⟨⟨-, hfits⟩, -⟩
      exact hterm (by simpa using hfits [] List.nil_prefix)

/-- A vertex whose coordinates are words of 64 bits. -/
structure Vertex.InWord (v : Vertex) : Prop where
  lng : -coordinateBound ≤ v.lng ∧ v.lng < coordinateBound
  lat : -coordinateBound ≤ v.lat ∧ v.lat < coordinateBound

theorem inWord_quantizeVertex (p : Float × Float) : (quantizeVertex p).InWord :=
  ⟨quantize_bounds p.1, quantize_bounds p.2⟩

/-- Only the upper bound can be attained. -/
theorem mul_bounds {b x y : Int} (hx : -b ≤ x ∧ x < b) (hy : -b ≤ y ∧ y < b) :
    -(b * b) < x * y ∧ x * y ≤ b * b := by
  obtain ⟨hx, hx'⟩ := hx
  obtain ⟨hy, hy'⟩ := hy
  constructor
  · by_cases hsum : x + y < 0
    · nlinarith
    · nlinarith
  · nlinarith

theorem wordBound_eq : (wordBound : Int) = 2 * (coordinateBound * coordinateBound) := by
  decide +kernel

theorem Vertex.InWord.fits (hv : v.InWord) (hw : w.InWord) :
    FitsWord (v.lng * w.lat) ∧ FitsWord (w.lng * v.lat) ∧ FitsWord (cross v w) := by
  obtain ⟨hbelow, habove⟩ := mul_bounds hv.lng hw.lat
  obtain ⟨hbelow', habove'⟩ := mul_bounds hw.lng hv.lat
  have hbound := wordBound_eq
  unfold FitsWord cross
  refine ⟨?_, ?_, ?_⟩ <;> constructor <;> linarith

theorem Vertex.InWord.crossWord?_eq (hv : v.InWord) (hw : w.InWord) :
    crossWord? v w = some (cross v w) := by
  obtain ⟨hahead, hback, hcross⟩ := hv.fits hw
  simp only [crossWord?, word?_of_fits hahead, word?_of_fits hback, Option.bind_eq_bind,
    Option.bind_some]
  exact word?_of_fits hcross

/-- The cross products of less than three vertices cancel out. -/
theorem sumsFit_of_length_lt (hvs : ∀ v ∈ vs, v.InWord) (h : vs.length < 3) :
    SumsFit (crossTerms vs) := by
  match vs with
  | [] => simp [SumsFit, crossTerms, sides, fitsWord_zero]
  | [v] =>
    have hterms : crossTerms [v] = [0] := by simp [crossTerms, sides, cross]
    simp [SumsFit, hterms, forall_prefix_cons, fitsWord_zero]
  | [v, w] =>
    obtain ⟨-, -, hcross⟩ := (hvs v (by simp)).fits (hvs w (by simp))
    have hterms : crossTerms [v, w] = [cross v w, -cross v w] := by
      rw [← cross_swap]
      rfl
    simp [SumsFit, hterms, forall_prefix_cons, fitsWord_zero, hcross]

/-- The area stops exactly at the sums that do not fit, and is exact otherwise. -/
theorem wordArea?_eq_some_iff (hvs : ∀ v ∈ vs, v.InWord) {area : Int} :
    wordArea? vs = some area ↔ SumsFit (crossTerms vs) ∧ area = signedArea vs := by
  unfold wordArea? signedArea
  split
  · next hfew =>
    simp [sumsFit_of_length_lt hvs hfew, eq_comm]
  · have hsides : ∀ side ∈ sides vs,
        crossWord? side.1 side.2 = some (cross side.1 side.2) := by
      intro side hside
      obtain ⟨hfirst, hsecond⟩ := mem_of_mem_sides hside
      exact (hvs _ hfirst).crossWord?_eq (hvs _ hsecond)
    rw [foldlM_word? hsides fitsWord_zero]
    simp only [zero_add]
    rfl

/-! ### Rings within bounds -/

theorem natAbs_sum_le {bound : Nat} (h : ∀ term ∈ terms, term.natAbs ≤ bound) :
    terms.sum.natAbs ≤ terms.length * bound := by
  induction terms with
  | nil => simp
  | cons term terms ih =>
    have hterm := h term List.mem_cons_self
    have hrest := ih fun term hterm => h term (List.mem_cons_of_mem _ hterm)
    rw [List.sum_cons, List.length_cons, Nat.succ_mul]
    omega

theorem natAbs_cross_le {bound : Nat} (hv : v.lng.natAbs ≤ bound ∧ v.lat.natAbs ≤ bound)
    (hw : w.lng.natAbs ≤ bound ∧ w.lat.natAbs ≤ bound) :
    (cross v w).natAbs ≤ 2 * bound ^ 2 := by
  have hahead : (v.lng * w.lat).natAbs ≤ bound * bound := by
    rw [Int.natAbs_mul]
    exact Nat.mul_le_mul hv.1 hw.2
  have hback : (w.lng * v.lat).natAbs ≤ bound * bound := by
    rw [Int.natAbs_mul]
    exact Nat.mul_le_mul hw.1 hv.2
  rw [pow_two, cross]
  omega

theorem length_crossTerms (vs : List Vertex) : (crossTerms vs).length = vs.length := by
  rw [crossTerms_eq_zipWith, List.length_zipWith, List.length_rotate, Nat.min_self]

/-- A ring whose coordinates are small for the number of its vertices. -/
def SmallRing (vs : List Vertex) : Prop :=
  ∃ bound : Nat, (∀ v ∈ vs, v.lng.natAbs ≤ bound ∧ v.lat.natAbs ≤ bound) ∧
    vs.length * (2 * bound ^ 2) < wordBound

theorem SmallRing.sumsFit (h : SmallRing vs) : SumsFit (crossTerms vs) := by
  obtain ⟨bound, hvs, hsize⟩ := h
  intro first hfirst
  have hterms : ∀ term ∈ first, term.natAbs ≤ 2 * bound ^ 2 := by
    intro term hterm
    obtain ⟨side, hside, rfl⟩ := List.mem_map.1 (hfirst.mem hterm)
    obtain ⟨hfirst, hsecond⟩ := mem_of_mem_sides hside
    exact natAbs_cross_le (hvs _ hfirst) (hvs _ hsecond)
  have hlength : first.length ≤ vs.length := length_crossTerms vs ▸ hfirst.length_le
  apply fitsWord_of_natAbs_lt
  calc first.sum.natAbs ≤ first.length * (2 * bound ^ 2) := natAbs_sum_le hterms
    _ ≤ vs.length * (2 * bound ^ 2) := Nat.mul_le_mul_right _ hlength
    _ < wordBound := hsize

theorem SmallRing.of_sameOutline (h : SmallRing vs) (same : SameOutline vs ws) : SmallRing ws := by
  obtain ⟨bound, hvs, hsize⟩ := h
  refine ⟨bound, fun v hv => hvs v (same.mem_iff.2 hv), ?_⟩
  rwa [← same.length_eq]

/-! ### Keys -/

namespace BuildingKey

variable {ring other : Footprint}

/-- The key of a footprint for a rounding of its vertices, with an exact area. -/
def rounded (round : Float × Float → Vertex) (ring : Footprint) : BuildingKey :=
  .ring (canonical signedArea (ring.map round))

theorem inWord_of_mem_corners (h : v ∈ corners ring) : v.InWord := by
  obtain ⟨p, -, rfl⟩ := List.mem_map.1 ((outline_sublist _).mem h)
  exact inWord_quantizeVertex p

theorem wordArea?_corners_eq_some_iff {area : Int} : wordArea? (corners ring) = some area ↔
    SumsFit (crossTerms (corners ring)) ∧ area = signedArea (corners ring) :=
  wordArea?_eq_some_iff fun _ => inWord_of_mem_corners

/-- There is a key exactly where all sums fit, and it is exact. -/
theorem ofFootprint_eq_some_iff {key : BuildingKey} :
    ofFootprint ring = some key ↔
      SumsFit (crossTerms (corners ring)) ∧ key = rounded quantizeVertex ring := by
  rw [ofFootprint, Option.bind_eq_bind, Option.bind_eq_some_iff]
  constructor
  · rintro ⟨area, hsome, hkey⟩
    obtain ⟨hsums, rfl⟩ := wordArea?_corners_eq_some_iff.1 hsome
    exact ⟨hsums, (Option.some.inj hkey).symm⟩
  · rintro ⟨hsums, rfl⟩
    exact ⟨_, wordArea?_corners_eq_some_iff.2 ⟨hsums, rfl⟩, rfl⟩

theorem eq_rounded_of_ofFootprint {key : BuildingKey} (h : ofFootprint ring = some key) :
    key = rounded quantizeVertex ring :=
  (ofFootprint_eq_some_iff.1 h).2

theorem ofFootprint_eq_none_iff :
    ofFootprint ring = none ↔ ¬ SumsFit (crossTerms (corners ring)) := by
  simp only [Option.eq_none_iff_forall_ne_some, ne_eq, ofFootprint_eq_some_iff, not_and]
  exact ⟨fun h hsums => h _ hsums rfl, fun h _ hsums => absurd hsums h⟩

/-- However a small ring is written down, it has a key. -/
theorem ofFootprint_of_small (small : SmallRing (corners ring)) (same : SameRing ring other) :
    ofFootprint other = some (rounded quantizeVertex other) := by
  have small' : SmallRing (corners other) :=
    small.of_sameOutline (same.map quantizeVertex).outline
  exact ofFootprint_eq_some_iff.2 ⟨small'.sumsFit, rfl⟩

/-- No product and no cross product of a footprint overflows, but their sum can. The area is exact
if all partial sums fit, and then so is the key; otherwise the sum stops, and there is no key.
Coordinates that are small for the number of vertices always give the exact area and the exact
key. -/
theorem winding_exact_iff (ring : Footprint) :
    (∀ side ∈ sides (corners ring), FitsWord (side.1.lng * side.2.lat) ∧
      FitsWord (side.2.lng * side.1.lat) ∧ FitsWord (cross side.1 side.2)) ∧
    (∀ area, wordArea? (corners ring) = some area ↔
      SumsFit (crossTerms (corners ring)) ∧ area = signedArea (corners ring)) ∧
    (∀ key, ofFootprint ring = some key ↔
      SumsFit (crossTerms (corners ring)) ∧ key = rounded quantizeVertex ring) ∧
    (ofFootprint ring = none ↔ ¬ SumsFit (crossTerms (corners ring))) ∧
    (SmallRing (corners ring) → wordArea? (corners ring) = some (signedArea (corners ring)) ∧
      ofFootprint ring = some (rounded quantizeVertex ring)) := by
  refine ⟨?_, fun area => wordArea?_corners_eq_some_iff, fun key => ofFootprint_eq_some_iff,
    ofFootprint_eq_none_iff, ?_⟩
  · intro side hside
    obtain ⟨hfirst, hsecond⟩ := mem_of_mem_sides hside
    exact (inWord_of_mem_corners hfirst).fits (inWord_of_mem_corners hsecond)
  · intro small
    exact ⟨wordArea?_corners_eq_some_iff.2 ⟨small.sumsFit, rfl⟩,
      ofFootprint_of_small small (.refl ring)⟩

/-- The whole range of longitudes and latitudes. -/
def globe : Footprint := [(-180, -90), (180, -90), (180, 90), (-180, 90)]

theorem winding_exact_iff_globe :
    wordArea? (corners globe) = some (signedArea (corners globe)) ∧
      ofFootprint globe = some (rounded quantizeVertex globe) := by
  obtain ⟨-, -, -, -, hsmall⟩ := winding_exact_iff globe
  exact hsmall ⟨1800000000, by decide +kernel, by decide +kernel⟩

/-- A counter-clockwise triangle whose corners are the least and the greatest vertices. -/
def wide : Footprint := [(1e12, 1e12), (-1e12, 1e12), (-1e12, -1e12)]

/-- A feature that has the triangle for its ring. -/
def wideFeature : Json :=
  .obj [("geometry", .obj [("coordinates", .arr [.arr [.arr [.float 1e12, .float 1e12],
    .arr [.float (-1e12), .float 1e12], .arr [.float (-1e12), .float (-1e12)]]])])]

/-- The sum of the triangle stops. It has no key, and a list with its feature gives no set. -/
theorem winding_not_exact :
    Feature.ofJson? wideFeature = some ⟨none, some wide, none⟩ ∧
      0 < signedArea (corners wide) ∧ wordArea? (corners wide) = none ∧
      ofFootprint wide = none ∧ CoverageSet.ofFeatures [wideFeature] = none := by
  decide +kernel

end BuildingKey

end Sightline
