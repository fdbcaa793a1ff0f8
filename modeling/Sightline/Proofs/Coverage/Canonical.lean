import Mathlib.Data.List.Chain
import Sightline.Proofs.Coverage.Footprint

/-!
# Canonical rings

A canonical ring has no vertex twice in a row, starts at a least vertex and does not wind
clockwise. The canonical form of a ring is such a ring (`canonicalRing_canonical`), and exactly
these rings are their own canonical form (`canonical_eq_self_iff`). It still is an outline of the
ring, so a key tells the outline of its footprint.
-/

namespace Sightline

variable {vs ws : List Vertex}

/-! ### Outlines -/

theorem sameRing_dropRepeats (before vs : List Vertex) :
    SameRing (before ++ vs) (before ++ dropRepeats vs) := by
  induction vs generalizing before with
  | nil => exact .refl _
  | cons v vs ih =>
    rw [dropRepeats_cons]
    split
    · next hhead =>
      obtain ⟨rest, rfl⟩ := List.head?_eq_some_iff.1 hhead
      exact (SameRing.again before v rest).symm.trans (ih before)
    · simpa using ih (before ++ [v])

theorem sameRing_dropClosing (vs : List Vertex) : SameRing vs (dropClosing vs) := by
  cases vs with
  | nil => exact .refl _
  | cons v rest =>
    rw [dropClosing_cons]
    split
    · next hlast =>
      obtain ⟨inner, rfl⟩ := List.getLast?_eq_some_iff.1 hlast
      rw [List.dropLast_concat]
      exact (SameRing.close v inner).symm
    · exact .refl _

/-- The outline is one way to write the ring down. -/
theorem sameRing_outline (vs : List Vertex) : SameRing vs (outline vs) :=
  (sameRing_dropRepeats [] vs).trans (sameRing_dropClosing _)

theorem SameOutline.sameRing {α : Type} {vs ws : List α} (h : SameOutline vs ws) :
    SameRing vs ws := by
  rcases h with ⟨n, rfl⟩ | h
  · exact .rotate vs n
  · obtain ⟨n, hn⟩ := h
    have hrotated := SameRing.rotate vs n
    rw [hn] at hrotated
    exact hrotated.trans (SameRing.reverse ws).symm

/-- A ring that is no shorter than its outline is its outline. -/
theorem outline_eq_self_of_length (h : vs.length = (outline vs).length) : outline vs = vs :=
  (outline_sublist vs).eq_of_length h.symm

theorem outline_outline (vs : List Vertex) : outline (outline vs) = outline vs :=
  outline_eq_self_of_length (sameRing_outline vs).outline.length_eq

/-- An outline stays one from another vertex and the other way round. -/
theorem SameOutline.outline_eq_self (h : SameOutline vs ws) (hvs : outline vs = vs) :
    outline ws = ws := by
  apply outline_eq_self_of_length
  have hlength := h.sameRing.outline.length_eq
  rw [hvs] at hlength
  rw [← hlength, h.length_eq]

/-- No vertex equals the next one around the ring, unless it is the only one. -/
structure Apart (vs : List Vertex) : Prop where
  neighbours : vs.IsChain (· ≠ ·)
  ends : 1 < vs.length → vs.head? ≠ vs.getLast?

theorem isChain_dropRepeats (vs : List Vertex) : (dropRepeats vs).IsChain (· ≠ ·) := by
  induction vs with
  | nil => exact .nil
  | cons v vs ih =>
    rw [dropRepeats_cons]
    split
    · exact ih
    · next hhead =>
      refine List.isChain_cons.2 ⟨?_, ih⟩
      rintro w hw rfl
      rw [head?_dropRepeats] at hw
      exact hhead hw

theorem dropRepeats_eq_self (h : vs.IsChain (· ≠ ·)) : dropRepeats vs = vs := by
  induction vs with
  | nil => rfl
  | cons v vs ih =>
    obtain ⟨hhead, htail⟩ := List.isChain_cons.1 h
    have hne : vs.head? ≠ some v := fun heq => hhead v heq rfl
    rw [dropRepeats_cons, if_neg hne, ih htail]

/-- A ring is its own outline exactly if neighbours differ all the way round. -/
theorem outline_eq_self_iff : outline vs = vs ↔ Apart vs := by
  constructor
  · intro h
    have hkept : dropRepeats vs = vs := by
      apply (dropRepeats_sublist vs).eq_of_length_le
      conv_lhs => rw [← h]
      unfold outline dropClosing
      split
      · rw [List.length_dropLast]
        exact Nat.sub_le _ _
      · exact Nat.le_refl _
    constructor
    · rw [← hkept]
      exact isChain_dropRepeats vs
    · intro hlength hends
      have hshort : (outline vs).length < vs.length := by
        rw [outline, hkept, dropClosing, if_pos ⟨hlength, hends⟩, List.length_dropLast]
        omega
      rw [h] at hshort
      exact Nat.lt_irrefl _ hshort
  · intro h
    rw [outline, dropRepeats_eq_self h.neighbours]
    exact if_neg fun hclosed => h.ends hclosed.1 hclosed.2

/-! ### Starts -/

/-- No vertex of the ring is less than the one that it starts with. -/
def StartsLeast (vs : List Vertex) : Prop :=
  ∀ first ∈ vs.head?, ∀ v ∈ vs, compare v first ≠ .lt

theorem startsLeast_startAtLeast (vs : List Vertex) : StartsLeast (startAtLeast vs) := by
  rcases eq_or_ne vs [] with rfl | hne
  · intro first hfirst
    cases hfirst
  · obtain ⟨least, -, hhead, hleast⟩ := exists_head?_startAtLeast hne
    intro first hfirst v hv
    rw [hhead, Option.mem_some_iff] at hfirst
    exact hfirst ▸ hleast v ((isRotated_startAtLeast vs).mem_iff.2 hv)

/-- A ring that starts at a least vertex is left alone, even if it has this vertex twice. -/
theorem StartsLeast.startAtLeast_eq (h : StartsLeast vs) : startAtLeast vs = vs := by
  have hplace : leastIndex vs = 0 := by
    cases vs with
    | nil => rfl
    | cons v rest =>
      rw [leastIndex, if_neg]
      intro hless
      obtain ⟨w, hw, hwv⟩ := List.any_eq_true.1 hless
      exact h v rfl w (List.mem_cons_of_mem v hw) (of_decide_eq_true hwv)
  rw [startAtLeast, hplace, rotateLeft_eq_rotate, List.rotate_zero]

/-! ### Canonical forms -/

/-- A ring in canonical form. -/
structure CanonicalRing (vs : List Vertex) : Prop where
  apart : Apart vs
  start : StartsLeast vs
  /-- The ring winds counter-clockwise, or encloses no area. -/
  winding : 0 ≤ signedArea vs

theorem outline_canonical (area : List Vertex → Int) (vs : List Vertex) :
    outline (canonical area vs) = canonical area vs :=
  (sameOutline_canonical area vs).outline_eq_self (outline_outline vs)

theorem signedArea_orient_nonneg (vs : List Vertex) : 0 ≤ signedArea (orient signedArea vs) := by
  unfold orient
  split
  · rw [signedArea_reverse]
    omega
  · omega

theorem canonicalRing_canonical (vs : List Vertex) : CanonicalRing (canonical signedArea vs) where
  apart := outline_eq_self_iff.1 (outline_canonical signedArea vs)
  start := startsLeast_startAtLeast _
  winding := by
    rw [canonical, signedArea_eq_of_isRotated (isRotated_startAtLeast _)]
    exact signedArea_orient_nonneg _

/-- The rings in canonical form are those that canonicalization leaves unchanged. -/
theorem canonical_eq_self_iff : canonical signedArea vs = vs ↔ CanonicalRing vs := by
  constructor
  · intro h
    rw [← h]
    exact canonicalRing_canonical vs
  · intro h
    have hkept : orient signedArea vs = vs := if_neg (Int.not_lt.2 h.winding)
    rw [canonical, outline_eq_self_iff.2 h.apart, hkept, h.start.startAtLeast_eq]

/-- Rings with one canonical form have one outline. -/
theorem sameOutline_of_canonical_eq (h : canonical signedArea ws = canonical signedArea vs) :
    SameOutline (outline vs) (outline ws) :=
  (sameOutline_canonical signedArea vs).trans (h ▸ (sameOutline_canonical signedArea ws).symm)

namespace BuildingKey

/-- The key of a footprint is in canonical form and shows the outline of the ring, for every
rounding of the vertices. A key in canonical form is its own canonical form, and footprints with one
key have one outline. All of this holds of every key of the library, which has one if the sums of
the area fit. -/
theorem ofFootprint_canonicalRing (ring : Footprint) :
    (∀ round : Float × Float → Vertex,
      (∃ vertices, rounded round ring = .ring vertices ∧
        SameOutline (outline (ring.map round)) vertices ∧ CanonicalRing vertices ∧
        canonical signedArea vertices = vertices) ∧
      ∀ other, rounded round other = rounded round ring →
        SameOutline (outline (ring.map round)) (outline (other.map round))) ∧
    (∀ key ∈ ofFootprint ring,
      (∃ vertices, key = .ring vertices ∧
        SameOutline (outline (ring.map quantizeVertex)) vertices ∧ CanonicalRing vertices ∧
        canonical signedArea vertices = vertices) ∧
      ∀ other, ofFootprint other = some key →
        SameOutline (outline (ring.map quantizeVertex)) (outline (other.map quantizeVertex))) ∧
    (SumsFit (crossTerms (corners ring)) → (ofFootprint ring).isSome) := by
  have hrounded (round : Float × Float → Vertex) : ∃ vertices,
      rounded round ring = .ring vertices ∧ SameOutline (outline (ring.map round)) vertices ∧
        CanonicalRing vertices ∧ canonical signedArea vertices = vertices := by
    have hcanonical := canonicalRing_canonical (ring.map round)
    exact ⟨_, rfl, sameOutline_canonical signedArea _, hcanonical,
      canonical_eq_self_iff.2 hcanonical⟩
  have hother (round : Float × Float → Vertex) (other : Footprint)
      (same : rounded round other = rounded round ring) :
      SameOutline (outline (ring.map round)) (outline (other.map round)) :=
    sameOutline_of_canonical_eq (BuildingKey.ring.inj same)
  refine ⟨fun round => ⟨hrounded round, hother round⟩, ?_, ?_⟩
  · intro key hkey
    obtain rfl := eq_rounded_of_ofFootprint hkey
    refine ⟨hrounded quantizeVertex, fun other same => ?_⟩
    exact hother quantizeVertex other (eq_rounded_of_ofFootprint same).symm
  · intro hsums
    rw [ofFootprint_eq_some_iff.2 ⟨hsums, rfl⟩]
    rfl

theorem ofFootprint_canonicalRing_square :
    ∃ vertices, ofFootprint squareAgain = some (.ring vertices) ∧ CanonicalRing vertices ∧
      canonical signedArea vertices = vertices ∧ ofFootprint square = some (.ring vertices) ∧
      SameOutline (outline (squareAgain.map quantizeVertex))
        (outline (square.map quantizeVertex)) := by
  obtain ⟨-, hkeys, hfits⟩ := ofFootprint_canonicalRing squareAgain
  have hsmall : SmallRing (corners squareAgain) :=
    ⟨20000000, by decide +kernel, by decide +kernel⟩
  obtain ⟨key, hkey⟩ := Option.isSome_iff_exists.1 (hfits hsmall.sumsFit)
  obtain ⟨⟨vertices, rfl, -, hcanonical, hsame⟩, hother⟩ := hkeys key hkey
  have hsquare : ofFootprint square = some (.ring vertices) := by
    rw [← hkey]
    decide +kernel
  exact ⟨vertices, hkey, hcanonical, hsame, hsquare, hother square hsquare⟩

end BuildingKey

end Sightline
