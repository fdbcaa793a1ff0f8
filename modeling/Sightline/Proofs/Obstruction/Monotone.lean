import Mathlib
import Sightline.Proofs.Obstruction.Interpolant
import Sightline.Proofs.Obstruction.Intervals

/-!
# More obstruction

A higher surface or a lower edge of the zone loses no interval. Where the link was obstructed it
still is, so each run lies in a run of the others (`IsRun.exists_isRun_within`), and with it each
interval in an interval of the others (`obstructionsByDistance_within`).
-/

namespace Sightline

/-! ### Runs -/

section

variable {β : Type} [LT β] [OfNat β 0] {margins margins' : List β} {first last : Nat}

/-- Where all obstructed samples are still obstructed, every run lies in some run. -/
theorem IsRun.exists_isRun_within (h : IsRun margins first last)
    (hsub : ∀ i, Obstructed margins i → Obstructed margins' i) :
    ∃ first' last', IsRun margins' first' last' ∧ first' ≤ first ∧ last ≤ last' := by
  have hfirst := hsub first (h.obstructed first le_rfl h.first_le_last)
  obtain ⟨first', last', hrun, hle, hge⟩ := exists_isRun hfirst
  refine ⟨first', last', hrun, hle, ?_⟩
  by_contra hlt
  exact hrun.clear_after (hsub _ (h.obstructed _ (by omega) (by omega)))

theorem closing_le_closing (count : Nat) {last last' : Nat} (h : last ≤ last') :
    closing count last ≤ closing count last' := by
  rw [closing, closing]
  split <;> split <;> omega

theorem Obstructed.of_forall₂ {α : Type} [Preorder α] [OfNat α 0] {margins margins' : List α}
    {i : Nat} (h : Obstructed margins i) (hle : List.Forall₂ (· ≥ ·) margins margins') :
    Obstructed margins' i := by
  obtain ⟨margin, hmargin, hlt⟩ := h
  obtain ⟨hi, rfl⟩ := List.getElem?_eq_some_iff.1 hmargin
  obtain ⟨hlength, hget⟩ := List.forall₂_iff_get.1 hle
  have hi' : i < margins'.length := hlength ▸ hi
  have hge : margins[i] ≥ margins'[i] := hget i hi hi'
  exact ⟨margins'[i], List.getElem?_eq_getElem hi', hge.trans_lt hlt⟩

/-- A scan of lesser margins loses no interval. -/
theorem exists_within_of_mem_scan {α : Type} [Preorder α] [DecidableLT α] [OfNat α 0]
    {margins margins' : List α} {position : Nat → α}
    (hle : List.Forall₂ (· ≥ ·) margins margins')
    (hposition : ∀ i j, i ≤ j → j < margins.length → position i ≤ position j) {i : Interval α}
    (hi : i ∈ scan (margins.mapIdx fun i margin => ⟨position i, margin⟩)) :
    ∃ j ∈ scan (margins'.mapIdx fun i margin => ⟨position i, margin⟩),
      j.start ≤ i.start ∧ i.stop ≤ j.stop := by
  obtain ⟨runs, hruns, hscan⟩ := exists_runs margins
  obtain ⟨runs', hruns', hscan'⟩ := exists_runs margins'
  rw [hscan] at hi
  rw [hscan']
  obtain ⟨⟨first, last⟩, hmem, rfl⟩ := List.mem_map.1 hi
  obtain ⟨hrun, -⟩ := (hruns.mem_iff _).1 hmem
  obtain ⟨first', last', hrun', hfirst, hlast⟩ :=
    hrun.exists_isRun_within fun i hi => hi.of_forall₂ hle
  have hlength : margins'.length = margins.length := hle.length_eq.symm
  have hclosing : closing margins'.length last' < margins'.length := hrun'.closing_lt
  have hmem' := (hruns'.mem_iff ⟨first', last'⟩).2 ⟨hrun', Nat.zero_le _⟩
  refine ⟨_, List.mem_map_of_mem hmem', ?_, ?_⟩
  · exact hposition _ _ hfirst (hrun.first_le_last.trans_lt hrun.last_lt_length)
  · rw [hlength] at hclosing ⊢
    exact hposition _ _ (closing_le_closing _ hlast) hclosing

end

/-! ### Values -/

/-- A target that is not outside the known points lies on its segment. -/
theorem Covers.mem_Icc {α : Type} [LinearOrder α] {knots : Array (α × α)} {k : Nat} {x : α}
    (hk : Covers knots k x) (h : AscendingKnots knots) (hlt : k < knots.size)
    (hsize : k + 1 < knots.size) (hlow : ∃ p ∈ knots, p.1 ≤ x) (hhigh : ∃ p ∈ knots, x ≤ p.1) :
    x ∈ Set.Icc knots[k].1 knots[k + 1].1 := by
  constructor
  · rcases Nat.eq_zero_or_pos k with rfl | hpos
    · obtain ⟨p, hmem, hle⟩ := hlow
      obtain ⟨i, hi, rfl⟩ := Array.mem_iff_getElem.1 hmem
      exact (h.le (Nat.zero_le i) hi).trans hle
    · exact hk.low hpos
  · rcases Nat.lt_or_ge (k + 2) knots.size with hlt | hge
    · exact hk.high hlt
    · obtain ⟨p, hmem, hle⟩ := hhigh
      obtain ⟨i, hi, rfl⟩ := Array.mem_iff_getElem.1 hmem
      exact hle.trans (h.le (by omega) hsize)

/-- Through lower points with the same abscissas the values are lower, as both are weighed means of
the ends of the same segment. -/
theorem valueAt_le_valueAt {K : Type} [Field K] [LinearOrder K] [IsStrictOrderedRing K]
    {knots knots' : Array (K × K)} {x : K} (h : AscendingKnots knots)
    (hsize : knots'.size = knots.size)
    (hsame : ∀ i (_ : i < knots'.size) (_ : i < knots.size),
      knots'[i].1 = knots[i].1 ∧ knots'[i].2 ≤ knots[i].2)
    (two : 2 ≤ knots.size) (two' : 2 ≤ knots'.size) (hlow : ∃ p ∈ knots, p.1 ≤ x)
    (hhigh : ∃ p ∈ knots, x ≤ p.1) : valueAt knots' two' x ≤ valueAt knots two x := by
  have h' : AscendingKnots knots' := by
    intro i j hij hj
    rw [(hsame i _ (by omega)).1, (hsame j _ (by omega)).1]
    exact h i j hij _
  obtain ⟨k, hk⟩ : ∃ k, Covers knots k x := ⟨_, covers_segment h two x⟩
  have hlt := hk.lt_size
  obtain ⟨hfst, hle⟩ := hsame k (by omega) (by omega)
  obtain ⟨hfst', hle'⟩ := hsame (k + 1) (by omega) hlt
  have hk' : Covers knots' k x :=
    ⟨by omega, fun hpos => hfst ▸ hk.low hpos, fun hnext => hfst' ▸ hk.high (hsize ▸ hnext)⟩
  obtain ⟨hleft, hright⟩ := hk.mem_Icc h (Nat.lt_of_succ_lt hlt) hlt hlow hhigh
  rw [valueAt_eq_segmentLine h two hk, valueAt_eq_segmentLine h' two' hk']
  exact lineThrough_le_lineThrough (h k (k + 1) k.lt_succ_self hlt) hfst hfst' hleft hright hle hle'

/-! ### Obstructions -/

section

variable {K : Type} {envelope envelope' : List (FresnelPoint K)} {surface surface' : Surface K}
  {x : K}

/-- The points of the lower edge of a zone. -/
def edge (envelope : List (FresnelPoint K)) : Array (K × K) :=
  (envelope.map fun p => (p.distance, p.lower)).toArray

theorem edge_eq_zip (envelope : List (FresnelPoint K)) : edge envelope =
    ((envelope.map (·.distance)).zip (envelope.map (·.lower))).toArray := by
  rw [edge, List.zip_map']

/-- Point by point the second zone begins at the same height as the first one, or lower. -/
def Lowered [LE K] (envelope envelope' : List (FresnelPoint K)) : Prop :=
  List.Forall₂ (fun p p' => p'.distance = p.distance ∧ p'.lower ≤ p.lower) envelope envelope'

/-- Point by point the second surface is as high as the first one, or higher. -/
def Raised [LE K] (surface surface' : Surface K) : Prop :=
  List.Forall₂ (fun s s' => s'.distance = s.distance ∧ s.height ≤ s'.height) surface surface'

theorem Raised.position_eq [LE K] [OfNat K 0] (h : Raised surface surface') :
    surface'.position = surface.position := by
  have hdistances : surface'.distances = surface.distances := by
    induction h with
    | nil => rfl
    | cons h _ ih => exact congrArg₂ List.cons h.1 ih
  funext i
  rw [Surface.position, Surface.position, hdistances]

theorem ascendingKnots_edge [LinearOrder K]
    (h : (envelope.map (·.distance)).Pairwise (· < ·)) : AscendingKnots (edge envelope) := by
  rw [edge_eq_zip]
  exact ascendingKnots_zip h

variable [Field K] [LinearOrder K]

theorem distanceMargins_eq_map (two : 2 ≤ (edge envelope).size) (surface : Surface K) :
    distanceMargins envelope surface = surface.map fun sample =>
      valueAt (edge envelope) two sample.distance - sample.height := by
  have two' := two
  rw [edge_eq_zip] at two'
  rw [distanceMargins, resample_eq_map two']
  simp [edge_eq_zip, Surface.distances, Surface.heights, List.zipWith_map]

/-- Within the zone, a lowered edge is lower. -/
theorem Lowered.valueAt_le [IsStrictOrderedRing K] (hlowered : Lowered envelope envelope')
    (h : (envelope.map (·.distance)).Pairwise (· < ·)) (two : 2 ≤ (edge envelope).size)
    (two' : 2 ≤ (edge envelope').size) (hlow : ∃ p ∈ envelope, p.distance ≤ x)
    (hhigh : ∃ p ∈ envelope, x ≤ p.distance) :
    valueAt (edge envelope') two' x ≤ valueAt (edge envelope) two x := by
  obtain ⟨hlength, hget⟩ := List.forall₂_iff_get.1 hlowered
  refine valueAt_le_valueAt (ascendingKnots_edge h) ?_ ?_ two two' ?_ ?_
  · simpa [edge] using hlength.symm
  · intro i hi' hi
    simpa [edge] using hget i (by simpa [edge] using hi) (by simpa [edge] using hi')
  · obtain ⟨p, hmem, hle⟩ := hlow
    exact ⟨(p.distance, p.lower), by simpa [edge] using ⟨p, hmem, rfl, rfl⟩, hle⟩
  · obtain ⟨p, hmem, hle⟩ := hhigh
    exact ⟨(p.distance, p.lower), by simpa [edge] using ⟨p, hmem, rfl, rfl⟩, hle⟩

end

/-- A lowered edge of the zone and a raised surface lose no interval: each one lies in an interval
that is reported now. -/
theorem obstructionsByDistance_within {envelope envelope' : List (FresnelPoint ℚ)}
    {surface surface' : Surface ℚ} (two : 2 ≤ envelope.length)
    (hascending : (envelope.map (·.distance)).Pairwise (· < ·))
    (hlowered : Lowered envelope envelope') (hsurface : surface.Ascending)
    (hraised : Raised surface surface')
    (hinside : ∀ sample ∈ surface, (∃ p ∈ envelope, p.distance ≤ sample.distance) ∧
      ∃ p ∈ envelope, sample.distance ≤ p.distance) :
    ∀ i ∈ obstructionsByDistance envelope surface,
      ∃ j ∈ obstructionsByDistance envelope' surface', j.start ≤ i.start ∧ i.stop ≤ j.stop := by
  have hedge : 2 ≤ (edge envelope).size := by simpa [edge] using two
  have hedge' : 2 ≤ (edge envelope').size := by
    simpa [edge, ← List.Forall₂.length_eq hlowered] using two
  have hmargins : List.Forall₂ (· ≥ ·) (distanceMargins envelope surface)
      (distanceMargins envelope' surface') := by
    rw [distanceMargins_eq_map hedge, distanceMargins_eq_map hedge', List.forall₂_map_left_iff,
      List.forall₂_map_right_iff]
    refine ((List.forall₂_and_left _ _).2 ⟨hinside, hraised⟩).imp ?_
    rintro sample sample' ⟨⟨hlow, hhigh⟩, hdistance, hheight⟩
    rw [hdistance]
    exact sub_le_sub (hlowered.valueAt_le hascending hedge hedge' hlow hhigh) hheight
  rw [obstructionsByDistance_eq envelope surface fun _ => surface.position_eq,
    obstructionsByDistance_eq envelope' surface' fun _ => surface'.position_eq, hraised.position_eq]
  intro i hi
  refine exists_within_of_mem_scan hmargins (fun i j hij hj => ?_) hi
  have hj : j < surface.length := hj.trans_le (length_distanceMargins_le _ _)
  rw [surface.position_eq hj, surface.position_eq (hij.trans_lt hj)]
  exact hsurface j hj i hij

/-- The hill reaches into the level zone at one sample. Under a zone that descends, and with another
rise behind the hill, it does so at two. -/
theorem obstructionsByDistance_within_hill :
    let zone : List (FresnelPoint ℚ) := [⟨0, 10, 20⟩, ⟨100, 10, 20⟩]
    let zone' : List (FresnelPoint ℚ) := [⟨0, 10, 20⟩, ⟨100, 0, 20⟩]
    let hill : Surface ℚ := .ofPairs [(0, 0), (20, 12), (40, 0), (60, 0), (80, 0)]
    let hill' : Surface ℚ := .ofPairs [(0, 0), (20, 12), (40, 7), (60, 0), (80, 2)]
    obstructionsByDistance zone hill = [⟨20, 40⟩] ∧
      obstructionsByDistance zone' hill' = [⟨20, 60⟩] ∧
      ∀ i ∈ obstructionsByDistance zone hill,
        ∃ j ∈ obstructionsByDistance zone' hill', j.start ≤ i.start ∧ i.stop ≤ j.stop := by
  intro zone zone' hill hill'
  have hlowered : Lowered zone zone' := by
    unfold Lowered
    decide +kernel
  have hraised : Raised hill hill' := by
    unfold Raised
    decide +kernel
  refine ⟨by decide +kernel, by decide +kernel, ?_⟩
  exact obstructionsByDistance_within (by decide) (by decide +kernel) hlowered (by decide +kernel)
    hraised (by decide +kernel)

end Sightline
