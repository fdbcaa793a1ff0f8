import Mathlib.Data.List.Count
import Sightline.Proofs.Coverage.Canonical

/-!
# Rings whose key is settled

The winding of a key is settled by the area of the ring, and its start by the least vertex. A ring
without an area may be told from its reverse, and a ring that visits its least vertex again may
start there in another way. Such a ring has one key exactly if neither makes a difference to its
outline (`turnsAlike_iff_settled`).
-/

namespace Sightline

variable {vs ws us : List Vertex} {v : Vertex}

/-! ### Rings from another vertex -/

theorem exists_leading_run (v : Vertex) (vs : List Vertex) :
    ∃ k rest, v :: vs = List.replicate (k + 1) v ++ rest ∧ rest.head? ≠ some v := by
  induction vs with
  | nil => exact ⟨0, [], rfl, by simp⟩
  | cons w vs ih =>
    by_cases h : w = v
    · subst h
      obtain ⟨k, rest, hrun, hrest⟩ := ih
      exact ⟨k + 1, rest, by rw [hrun]; rfl, hrest⟩
    · exact ⟨0, w :: vs, rfl, by simpa using h⟩

theorem dropRepeats_replicate (k : Nat) (v : Vertex) :
    dropRepeats (List.replicate (k + 1) v) = [v] := by
  induction k with
  | zero => rfl
  | succ k ih => rw [List.replicate_succ, dropRepeats_cons, if_pos (by rfl), ih]

/-- The outline moves on by one vertex when the ring moves on by its leading vertices. -/
theorem exists_rotate_outline_one (vs : List Vertex) :
    ∃ n, outline (vs.rotate n) = (outline vs).rotate 1 := by
  cases vs with
  | nil => exact ⟨0, rfl⟩
  | cons v vs =>
    obtain ⟨k, rest, hrun, hrest⟩ := exists_leading_run v vs
    rw [hrun]
    cases rest with
    | nil =>
      refine ⟨0, ?_⟩
      rw [List.append_nil, List.rotate_zero, outline, dropRepeats_replicate]
      exact (List.rotate_singleton v 1).symm
    | cons u rest =>
      clear hrun
      induction k generalizing rest with
      | zero => exact ⟨1, outline_concat_of_head?_ne hrest⟩
      | succ k ih =>
        obtain ⟨n, hn⟩ := ih (rest ++ [v]) hrest
        refine ⟨n + 1, ?_⟩
        have hsame : outline (List.replicate (k + 1) v ++ u :: (rest ++ [v])) =
            outline (List.replicate (k + 2) v ++ u :: rest) := by
          rw [← List.cons_append, ← List.append_assoc]
          exact outline_concat_of_head?_eq rfl
        rw [← hsame, ← hn, List.replicate_succ, List.cons_append, List.rotate_cons_succ,
          List.append_assoc, List.cons_append]

/-- Every rotation of the outline is the outline of the ring from some vertex. -/
theorem exists_rotate_outline (h : outline vs ~r ws) : ∃ n, outline (vs.rotate n) = ws := by
  obtain ⟨m, rfl⟩ := h
  induction m with
  | zero => exact ⟨0, by rw [List.rotate_zero, List.rotate_zero]⟩
  | succ m ih =>
    obtain ⟨n, hn⟩ := ih
    obtain ⟨n', hn'⟩ := exists_rotate_outline_one (vs.rotate n)
    exact ⟨n + n', by rw [← List.rotate_rotate, hn', hn, List.rotate_rotate]⟩

/-! ### Starts -/

/-- There is only one way to start the ring at a least vertex. -/
def OneStart (vs : List Vertex) : Prop :=
  ∀ ws us, vs ~r ws → vs ~r us → StartsLeast ws → StartsLeast us → ws = us

theorem OneStart.startAtLeast_eq (h : OneStart vs) (hr : vs ~r ws) :
    startAtLeast vs = startAtLeast ws :=
  h _ _ (isRotated_startAtLeast vs) (hr.trans (isRotated_startAtLeast ws))
    (startsLeast_startAtLeast vs) (startsLeast_startAtLeast ws)

theorem StartsLeast.turn {rest : List Vertex} (h : StartsLeast (v :: rest)) :
    StartsLeast (v :: rest.reverse) := by
  intro first hfirst w hw
  exact h first hfirst w (by simpa using hw)

/-- The other way round, a ring goes back to where it started. -/
theorem OneStart.reverse (h : OneStart vs) : OneStart vs.reverse := by
  have hturn : ∀ w rest, vs.reverse ~r w :: rest → vs ~r w :: rest.reverse := by
    intro w rest hr
    refine (List.isRotated_reverse_comm_iff.1 hr).trans ?_
    rw [List.reverse_cons]
    exact List.isRotated_concat w rest.reverse
  intro ws us hws hus hleast hleast'
  have hlength : ws.length = us.length := (hws.symm.trans hus).perm.length_eq
  match ws, us with
  | [], [] => rfl
  | w :: ws, u :: us =>
    have heq := h _ _ (hturn w ws hws) (hturn u us hus) hleast.turn hleast'.turn
    rw [List.cons.injEq, List.reverse_inj] at heq
    rw [heq.1, heq.2]

theorem oneStart_reverse_iff : OneStart vs.reverse ↔ OneStart vs := by
  constructor
  · intro h
    simpa using h.reverse
  · exact OneStart.reverse

theorem oneStart_orient_iff {area : List Vertex → Int} :
    OneStart (orient area vs) ↔ OneStart vs := by
  unfold orient
  split
  · exact oneStart_reverse_iff
  · rfl

/-- A vertex that comes first and occurs once comes first in no other rotation. -/
theorem eq_of_isRotated_of_count {rest : List Vertex} (hr : v :: rest ~r v :: us)
    (hcount : (v :: rest).count v ≤ 1) : rest = us := by
  obtain ⟨n, hn, hrotate⟩ := List.isRotated_iff_mod.1 hr
  cases n with
  | zero => simpa using hrotate
  | succ n =>
    rw [List.rotate_eq_drop_append_take hn, List.drop_succ_cons, List.take_succ_cons] at hrotate
    have habsent : v ∉ rest := by
      rw [List.count_cons_self] at hcount
      exact List.count_eq_zero.1 (by omega)
    cases hdrop : rest.drop n with
    | nil =>
      rw [hdrop, List.nil_append, List.cons.injEq] at hrotate
      rw [← hrotate.2, List.take_of_length_le (List.drop_eq_nil_iff.1 hdrop)]
    | cons w tail =>
      rw [hdrop, List.cons_append, List.cons.injEq] at hrotate
      have hmem : v ∈ rest.drop n := by rw [hdrop, hrotate.1]; exact List.mem_cons_self
      exact absurd (List.mem_of_mem_drop hmem) habsent

theorem oneStart_of_count (h : ∀ least ∈ (startAtLeast vs).head?, vs.count least ≤ 1) :
    OneStart vs := by
  suffices hsame : ∀ ws, vs ~r ws → StartsLeast ws → startAtLeast vs = ws by
    intro ws us hws hus hleast hleast'
    rw [← hsame ws hws hleast, hsame us hus hleast']
  intro ws hws hleast
  have hr := (isRotated_startAtLeast vs).symm.trans hws
  have hcount : ∀ least ∈ (startAtLeast vs).head?, (startAtLeast vs).count least ≤ 1 := by
    intro least hhead
    rw [← (isRotated_startAtLeast vs).perm.count_eq]
    exact h least hhead
  have hfirst := startsLeast_startAtLeast vs
  generalize startAtLeast vs = first at hr hcount hfirst
  match first, ws with
  | [], ws => exact (List.isRotated_nil_iff'.1 hr)
  | first, [] => exact (List.isRotated_nil_iff.1 hr)
  | v :: rest, w :: us =>
    obtain rfl : v = w := by
      apply eq_of_not_lt
      · exact hleast w rfl v (hr.mem_iff.1 List.mem_cons_self)
      · exact hfirst v rfl w (hr.mem_iff.2 List.mem_cons_self)
    rw [eq_of_isRotated_of_count hr (hcount v rfl)]

/-! ### Settled rings -/

/-- Neither the start nor the winding of the ring is left open: it has one start at its least
vertex, and it has an area or is the same ring either way round. -/
structure Settled (vs : List Vertex) : Prop where
  start : OneStart vs
  winding : signedArea vs ≠ 0 ∨ vs ~r vs.reverse

/-- A ring without an area, or one that visits its least vertex again. -/
def Degenerate (vs : List Vertex) : Prop :=
  signedArea vs = 0 ∨ ∃ least ∈ (startAtLeast vs).head?, 1 < vs.count least

instance (vs : List Vertex) : Decidable (Degenerate vs) :=
  inferInstanceAs (Decidable (_ ∨ _))

theorem settled_of_not_degenerate (h : ¬ Degenerate vs) : Settled vs := by
  unfold Degenerate at h
  push Not at h
  exact ⟨oneStart_of_count h.2, .inl h.1⟩

/-! ### Alike from every vertex and either way round -/

theorem isRotated_orient_of_reverse (h : vs ~r vs.reverse) : vs ~r orient signedArea vs := by
  unfold orient
  split
  · exact h
  · exact .refl vs

/-- The winding of a settled ring makes no difference. -/
theorem Settled.orient (h : Settled vs) (same : SameOutline vs ws) :
    orient signedArea vs ~r orient signedArea ws := by
  rcases h.winding with harea | hturn
  · exact same.orient harea
  · -- the ring and its reverse are rotations of one another, so all four rings are
    have hws : vs ~r ws := by
      rcases same with hr | hr
      · exact hr
      · exact hturn.trans (List.isRotated_reverse_comm_iff.2 hr)
    have hturn' : ws ~r ws.reverse := hws.symm.trans (hturn.trans hws.reverse)
    exact (isRotated_orient_of_reverse hturn).symm.trans
      (hws.trans (isRotated_orient_of_reverse hturn'))

/-- A settled ring has one canonical form, however it is written down. -/
theorem Settled.canonical_eq (h : Settled (outline vs)) (same : SameRing vs ws) :
    canonical signedArea vs = canonical signedArea ws :=
  (oneStart_orient_iff.2 h.start).startAtLeast_eq (h.orient same.outline)

/-- From some vertex, the oriented outline is any of its rotations. -/
theorem exists_orient_rotate (h : orient signedArea (outline vs) ~r ws) :
    ∃ n, orient signedArea (outline (vs.rotate n)) = ws := by
  have hsame : ∀ n, signedArea (outline (vs.rotate n)) = signedArea (outline vs) :=
    fun n => signedArea_eq_of_isRotated (outline_rotate vs n).symm
  unfold orient at h ⊢
  simp only [hsame]
  split at h
  · next hneg =>
    obtain ⟨n, hn⟩ := exists_rotate_outline (List.isRotated_reverse_comm_iff.1 h)
    exact ⟨n, by rw [if_pos hneg, hn, List.reverse_reverse]⟩
  · next hpos =>
    obtain ⟨n, hn⟩ := exists_rotate_outline h
    exact ⟨n, by rw [if_neg hpos, hn]⟩

/-- Every start of the oriented outline at a least vertex is the canonical form from some vertex. -/
theorem oneStart_of_canonical_rotate
    (h : ∀ n, canonical signedArea (vs.rotate n) = canonical signedArea vs) :
    OneStart (outline vs) := by
  suffices hform : ∀ ws, orient signedArea (outline vs) ~r ws → StartsLeast ws →
      ws = canonical signedArea vs by
    apply oneStart_orient_iff.1
    intro ws us hws hus hleast hleast'
    rw [hform ws hws hleast, hform us hus hleast']
  intro ws hws hleast
  obtain ⟨n, hn⟩ := exists_orient_rotate hws
  rw [← h n, canonical, hn, hleast.startAtLeast_eq]

theorem isRotated_canonical_of_area_eq_zero (h : signedArea (outline vs) = 0) :
    outline vs ~r canonical signedArea vs := by
  have hkept : orient signedArea (outline vs) = outline vs := if_neg (by omega)
  rw [canonical, hkept]
  exact isRotated_startAtLeast _

/-- A ring without an area is not turned around, and neither is its reverse. -/
theorem isRotated_reverse_of_canonical_reverse
    (h : canonical signedArea vs.reverse = canonical signedArea vs)
    (hzero : signedArea (outline vs) = 0) : outline vs ~r (outline vs).reverse := by
  have hr := outline_reverse vs
  have hzero' : signedArea (outline vs.reverse) = 0 := by
    rw [signedArea_eq_of_isRotated hr.symm, signedArea_reverse, hzero, neg_zero]
  have hform := isRotated_canonical_of_area_eq_zero hzero'
  rw [h] at hform
  exact ((isRotated_canonical_of_area_eq_zero hzero).trans hform.symm).trans hr

theorem settled_of_canonical_eq
    (hrotate : ∀ n, canonical signedArea (vs.rotate n) = canonical signedArea vs)
    (hreverse : canonical signedArea vs.reverse = canonical signedArea vs) :
    Settled (outline vs) where
  start := oneStart_of_canonical_rotate hrotate
  winding := by
    by_cases hzero : signedArea (outline vs) = 0
    · exact .inr (isRotated_reverse_of_canonical_reverse hreverse hzero)
    · exact .inl hzero

namespace BuildingKey

/-- A key that is the same from every vertex and either way round. -/
def TurnsAlike {α : Type} (key : Footprint → α) (ring : Footprint) : Prop :=
  (∀ n, key (ring.rotate n) = key ring) ∧ key ring.reverse = key ring

theorem TurnsAlike.of_sameRing {α : Type} {key : Footprint → α} {ring : Footprint}
    (h : ∀ other, SameRing ring other → key other = key ring) : TurnsAlike key ring :=
  ⟨fun n => h _ (.rotate ring n), h _ (.reverse ring)⟩

variable {round : Float × Float → Vertex} {ring other : Footprint}

theorem TurnsAlike.settled (h : TurnsAlike (rounded round) ring) :
    Settled (outline (ring.map round)) := by
  simp only [TurnsAlike, rounded, BuildingKey.ring.injEq, List.map_rotate, List.map_reverse] at h
  exact settled_of_canonical_eq h.1 h.2

theorem rounded_eq_of_settled (h : Settled (outline (ring.map round)))
    (same : SameRing ring other) : rounded round other = rounded round ring := by
  rw [rounded, rounded, h.canonical_eq (same.map round)]

/-- The key of a footprint is the same from every vertex and either way round exactly if the ring
has one start at its least vertex, and has an area or is the same ring either way round; then it is
the same however the ring is written down. A ring that has an area and visits its least vertex once
is of this kind. No two keys that the library has for a settled ring differ, and where no sum of the
area overflows, as for a small ring, its keys agree exactly for the settled rings. -/
theorem turnsAlike_iff_settled (ring : Footprint) :
    (∀ round : Float × Float → Vertex,
      (TurnsAlike (rounded round) ring ↔ Settled (outline (ring.map round))) ∧
      ((∀ other, SameRing ring other → rounded round other = rounded round ring) ↔
        Settled (outline (ring.map round))) ∧
      (¬ Degenerate (outline (ring.map round)) → TurnsAlike (rounded round) ring)) ∧
    (Settled (corners ring) → ∀ other, SameRing ring other →
      ∀ key ∈ ofFootprint ring, ∀ key' ∈ ofFootprint other, key' = key) ∧
    ((∀ other, SameRing ring other → (ofFootprint other).isSome) →
      (TurnsAlike ofFootprint ring ↔ Settled (corners ring)) ∧
      ((∀ other, SameRing ring other → ofFootprint other = ofFootprint ring) ↔
        Settled (corners ring))) ∧
    (SmallRing (corners ring) → ∀ other, SameRing ring other → (ofFootprint other).isSome) := by
  have hall {round : Float × Float → Vertex} (h : Settled (outline (ring.map round))) :
      ∀ other, SameRing ring other → rounded round other = rounded round ring :=
    fun other => rounded_eq_of_settled h
  refine ⟨fun round => ⟨?_, ?_, ?_⟩, ?_, fun keyed => ?_, ?_⟩
  · exact ⟨TurnsAlike.settled, fun h => .of_sameRing (hall h)⟩
  · exact ⟨fun h => (TurnsAlike.of_sameRing h).settled, hall⟩
  · exact fun h => .of_sameRing (hall (settled_of_not_degenerate h))
  · intro h other same key hkey key' hkey'
    rw [eq_rounded_of_ofFootprint hkey, eq_rounded_of_ofFootprint hkey', hall h other same]
  · have hkey : ∀ other, SameRing ring other →
        ofFootprint other = some (rounded quantizeVertex other) := by
      intro other same
      obtain ⟨key, hkey⟩ := Option.isSome_iff_exists.1 (keyed other same)
      rw [hkey, eq_rounded_of_ofFootprint hkey]
    have hsettled (h : TurnsAlike ofFootprint ring) : Settled (corners ring) := by
      simp only [TurnsAlike, hkey _ (.rotate ring _), hkey _ (.reverse ring), hkey _ (.refl ring),
        Option.some.injEq] at h
      exact TurnsAlike.settled h
    have hsame (h : Settled (corners ring)) :
        ∀ other, SameRing ring other → ofFootprint other = ofFootprint ring := by
      intro other same
      rw [hkey other same, hkey ring (.refl ring), hall h other same]
    exact ⟨⟨hsettled, fun h => .of_sameRing (hsame h)⟩,
      ⟨fun h => hsettled (.of_sameRing h), hsame⟩⟩
  · intro small other same
    rw [ofFootprint_of_small small same]
    rfl

/-- A way along a line and back, which is the same ring either way round. -/
def thereAndBack : Footprint := [(0, 0), (1, 0), (2, 0), (1, 0)]

theorem turnsAlike_iff_settled_thereAndBack :
    (¬ Degenerate (outline (square.map quantizeVertex)) ∧
      TurnsAlike (rounded quantizeVertex) square) ∧
    Degenerate (outline (thereAndBack.map quantizeVertex)) ∧
      TurnsAlike ofFootprint thereAndBack := by
  constructor
  · have hsquare : ¬ Degenerate (outline (square.map quantizeVertex)) := by decide +kernel
    obtain ⟨hrounded, -⟩ := turnsAlike_iff_settled square
    exact ⟨hsquare, (hrounded quantizeVertex).2.2 hsquare⟩
  · obtain ⟨-, -, hturns, hsmall⟩ := turnsAlike_iff_settled thereAndBack
    have small : SmallRing (corners thereAndBack) :=
      ⟨20000000, by decide +kernel, by decide +kernel⟩
    obtain ⟨halike, -⟩ := hturns (hsmall small)
    refine ⟨by decide +kernel, halike.2 ⟨oneStart_of_count ?_, .inr ?_⟩⟩ <;> decide +kernel

/-- Three corners on one line. -/
def sliver : Footprint := [(0, 0), (1, 0), (2, 0)]

/-- Two triangles that touch in their least corner. -/
def touching : Footprint := [(0, 0), (2, 0), (2, 1), (0, 0), (1, 2), (0, 2)]

/-- The reverse of the sliver has another key, and so have the triangles if the other one comes
first. -/
theorem degenerate_not_turnsAlike :
    (Degenerate (corners sliver) ∧ (ofFootprint sliver).isSome ∧
      (ofFootprint sliver.reverse).isSome ∧ ofFootprint sliver.reverse ≠ ofFootprint sliver) ∧
    Degenerate (corners touching) ∧ signedArea (corners touching) ≠ 0 ∧
      (ofFootprint touching).isSome ∧ (ofFootprint (touching.rotate 3)).isSome ∧
      ofFootprint (touching.rotate 3) ≠ ofFootprint touching := by
  decide +kernel

end BuildingKey

end Sightline
