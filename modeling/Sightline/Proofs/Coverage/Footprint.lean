import Mathlib.Data.List.Nodup
import Sightline.Proofs.Coverage.Winding

/-!
# Keys of footprints

The key of a footprint is one list for all the ways to write the ring down. The area keeps its
size under all of them and changes its sign with the winding, so it settles the winding of the key,
and the least vertex of a ring without a double vertex settles where the key starts.
-/

namespace Sightline

/-! ### Winding -/

/-- A ring that has an area winds one way only, so the winding of the key is settled. -/
theorem SameOutline.orient {vs ws : List Vertex} (h : SameOutline vs ws)
    (area : signedArea vs ≠ 0) : orient signedArea vs ~r orient signedArea ws := by
  unfold Sightline.orient
  rcases h with h | h
  · rw [signedArea_eq_of_isRotated h]
    split
    · exact h.reverse
    · exact h
  · have hneg : signedArea ws = -signedArea vs := by
      rw [← signedArea_eq_of_isRotated h, signedArea_reverse, neg_neg]
    by_cases hvs : signedArea vs < 0
    · rw [if_pos hvs, if_neg (by omega)]
      exact List.isRotated_reverse_comm_iff.2 h
    · rw [if_neg hvs, if_pos (by omega)]
      exact h

theorem sameOutline_orient (area : List Vertex → Int) (vs : List Vertex) :
    SameOutline vs (orient area vs) := by
  unfold orient
  split
  · exact .inr (by rw [List.reverse_reverse])
  · exact .refl vs

theorem nodup_orient {vs : List Vertex} (area : List Vertex → Int) :
    (orient area vs).Nodup ↔ vs.Nodup := by
  unfold orient
  split
  · exact List.nodup_reverse
  · rfl

/-! ### Start -/

theorem rotateLeft_eq_rotate (vs : List Vertex) (n : Nat) : vs.rotateLeft n = vs.rotate n := by
  match vs with
  | [] => rw [List.rotateLeft_nil, List.rotate_nil]
  | [v] => rw [List.rotate_singleton]; rfl
  | v :: w :: rest => rw [List.rotate_eq_drop_append_take_mod]; rfl

theorem isRotated_startAtLeast (vs : List Vertex) : vs ~r startAtLeast vs :=
  ⟨leastIndex vs, (rotateLeft_eq_rotate ..).symm⟩

theorem leastIndex_lt {vs : List Vertex} (h : vs ≠ []) : leastIndex vs < vs.length := by
  induction vs with
  | nil => exact absurd rfl h
  | cons v rest ih =>
    rw [leastIndex, List.length_cons]
    split
    · rename_i hless
      have hne : rest ≠ [] := by rintro rfl; simp at hless
      exact Nat.succ_lt_succ (ih hne)
    · omega

/-- No vertex is less than the one at the least place. -/
theorem compare_getElem_leastIndex {vs : List Vertex} (h : leastIndex vs < vs.length) :
    ∀ v ∈ vs, compare v vs[leastIndex vs] ≠ .lt := by
  induction vs with
  | nil => simp
  | cons v rest ih =>
    by_cases hless : (rest.any fun w => compare w v = .lt) = true
    · have hplace : leastIndex (v :: rest) = leastIndex rest + 1 := by rw [leastIndex, if_pos hless]
      have hrest : leastIndex rest < rest.length := by
        rw [hplace, List.length_cons] at h
        omega
      simp only [hplace, List.getElem_cons_succ]
      obtain ⟨w, hw, hwv⟩ := List.any_eq_true.1 hless
      intro u hu
      rcases List.mem_cons.1 hu with rfl | hu
      · intro hlt
        exact ih hrest w hw (Std.TransCmp.lt_trans (of_decide_eq_true hwv) hlt)
      · exact ih hrest u hu
    · have hplace : leastIndex (v :: rest) = 0 := by rw [leastIndex, if_neg hless]
      simp only [hplace, List.getElem_cons_zero]
      intro u hu hlt
      rcases List.mem_cons.1 hu with rfl | hu
      · simp at hlt
      · exact hless (List.any_eq_true.2 ⟨u, hu, decide_eq_true hlt⟩)

/-- The key starts at a vertex of the ring that no vertex is less than. -/
theorem exists_head?_startAtLeast {vs : List Vertex} (h : vs ≠ []) :
    ∃ least ∈ vs, (startAtLeast vs).head? = some least ∧ ∀ v ∈ vs, compare v least ≠ .lt := by
  have hplace := leastIndex_lt h
  refine ⟨vs[leastIndex vs], List.getElem_mem hplace, ?_, compare_getElem_leastIndex hplace⟩
  rw [startAtLeast, rotateLeft_eq_rotate, List.head?_rotate hplace, List.getElem?_eq_getElem hplace]

theorem eq_of_not_lt {v w : Vertex} (hvw : compare v w ≠ .lt) (hwv : compare w v ≠ .lt) :
    v = w := by
  cases h : compare v w with
  | lt => exact absurd h hvw
  | eq => exact Std.LawfulEqCmp.eq_of_compare h
  | gt => exact absurd (Std.OrientedCmp.lt_of_gt h) hwv

/-- Rotations of a ring without a double vertex that start at the same vertex are equal. -/
theorem eq_of_isRotated_of_head?_eq {vs ws : List Vertex} (hvs : vs.Nodup) (h : vs ~r ws)
    (hhead : vs.head? = ws.head?) : vs = ws := by
  obtain ⟨n, hn, rfl⟩ := List.isRotated_iff_mod.1 h
  rcases Nat.lt_or_eq_of_le hn with hlt | rfl
  · rw [List.head?_rotate hlt, List.head?_eq_getElem?] at hhead
    have hzero : 0 = n := (List.getElem?_inj (by omega) hvs).1 hhead
    rw [← hzero, List.rotate_zero]
  · rw [List.rotate_length]

/-- A ring without a double vertex starts at its least vertex in one way only. -/
theorem startAtLeast_eq_of_isRotated {vs ws : List Vertex} (hvs : vs.Nodup) (h : vs ~r ws) :
    startAtLeast vs = startAtLeast ws := by
  rcases eq_or_ne vs [] with rfl | hne
  · rw [List.isRotated_nil_iff'.1 h]
  · have hne' : ws ≠ [] := by
      rintro rfl
      exact hne (List.isRotated_nil_iff.1 h)
    obtain ⟨v, hv, hheadv, hleastv⟩ := exists_head?_startAtLeast hne
    obtain ⟨w, hw, hheadw, hleastw⟩ := exists_head?_startAtLeast hne'
    have hvw : v = w := eq_of_not_lt (hleastw v (h.mem_iff.1 hv)) (hleastv w (h.mem_iff.2 hw))
    apply eq_of_isRotated_of_head?_eq ((isRotated_startAtLeast vs).nodup_iff.1 hvs)
    · exact ((isRotated_startAtLeast vs).symm.trans h).trans (isRotated_startAtLeast ws)
    · rw [hheadv, hheadw, hvw]

/-! ### Keys -/

/-- The canonical ring is the outline, from some vertex and in some direction. -/
theorem sameOutline_canonical (area : List Vertex → Int) (vs : List Vertex) :
    SameOutline (outline vs) (canonical area vs) :=
  (sameOutline_orient area _).trans (.inl (isRotated_startAtLeast _))

/-- The canonical ring of vertices depends on the ring only, not on how it is written down. -/
theorem canonical_eq_of_sameRing {vs ws : List Vertex} (same : SameRing vs ws)
    (distinct : (outline vs).Nodup) (area : signedArea (outline vs) ≠ 0) :
    canonical signedArea vs = canonical signedArea ws :=
  startAtLeast_eq_of_isRotated ((nodup_orient _).2 distinct) (same.outline.orient area)

/-- A ring of rounded vertices whose outline visits no vertex twice and encloses an area. -/
structure SimpleRing (vertices : List Vertex) : Prop where
  distinct : (outline vertices).Nodup
  area : signedArea (outline vertices) ≠ 0

namespace BuildingKey

/-- The key of a simple footprint is the same however its ring is written down: from any vertex,
either way round, closed or not, and with any vertices repeated. It still shows the outline of the
ring. Any rounding will do. The library has no key where the sum of the area overflows, which it
does in no way to write down a small ring, and otherwise this one key. -/
theorem ofFootprint_eq_of_sameRing {ring other : Footprint} (same : SameRing ring other) :
    (∀ round : Float × Float → Vertex, SimpleRing (ring.map round) →
      rounded round other = rounded round ring ∧
        ∃ vertices, rounded round ring = .ring vertices ∧
          SameOutline (outline (ring.map round)) vertices) ∧
    (SimpleRing (ring.map quantizeVertex) →
      (∀ key ∈ ofFootprint ring, ∀ key' ∈ ofFootprint other, key' = key) ∧
      (SmallRing (corners ring) →
        ofFootprint other = ofFootprint ring ∧ (ofFootprint ring).isSome)) := by
  have hcanonical (round : Float × Float → Vertex) (simple : SimpleRing (ring.map round)) :
      rounded round other = rounded round ring := by
    rw [rounded, rounded, canonical_eq_of_sameRing (same.map round) simple.distinct simple.area]
  refine ⟨fun round simple => ⟨hcanonical round simple, ?_⟩, fun simple => ⟨?_, fun small => ?_⟩⟩
  · exact ⟨_, rfl, sameOutline_canonical signedArea _⟩
  · intro key hkey key' hkey'
    rw [eq_rounded_of_ofFootprint hkey, eq_rounded_of_ofFootprint hkey', hcanonical _ simple]
  · have hring := ofFootprint_of_small small (.refl ring)
    rw [ofFootprint_of_small small same, hring, hcanonical _ simple]
    exact ⟨rfl, rfl⟩

/-- A square, and the same square from another corner, the other way round, closed, and with a
corner repeated. -/
def square : Footprint := [(1, 1), (2, 1), (2, 2), (1, 2)]

@[inherit_doc square]
def squareAgain : Footprint := [(2, 2), (2, 1), (2, 1), (1, 1), (1, 2), (2, 2)]

/-- Coordinates cut off to whole units. -/
def cutOff (p : Float × Float) : Vertex := ⟨p.1.toUInt64.toNat, p.2.toUInt64.toNat⟩

theorem sameRing_squareAgain : SameRing square squareAgain := by
  have turned : SameRing square [(2, 2), (2, 1), (1, 1), (1, 2)] :=
    (SameRing.reverse square).trans (.rotate _ 1)
  have closed : SameRing square [(2, 2), (2, 1), (1, 1), (1, 2), (2, 2)] :=
    turned.trans (.close _ _)
  exact closed.trans (.again [(2, 2)] (2, 1) _)

theorem ofFootprint_eq_of_sameRing_square :
    SimpleRing (square.map cutOff) ∧ rounded cutOff squareAgain = rounded cutOff square ∧
      rounded cutOff square = .ring [⟨1, 1⟩, ⟨2, 1⟩, ⟨2, 2⟩, ⟨1, 2⟩] := by
  have simple : SimpleRing (square.map cutOff) := by
    constructor <;> decide +kernel
  obtain ⟨hsame, -⟩ := (ofFootprint_eq_of_sameRing sameRing_squareAgain).1 cutOff simple
  exact ⟨simple, hsame, by decide +kernel⟩

end BuildingKey

end Sightline
