import Sightline.Obstruction.Surface
import Sightline.Proofs.Decimal.Naturals
import Sightline.Proofs.Obstruction.Runs

/-!
# Reported intervals

Whether by distance or by sample number, the intervals that are reported are those of the runs of
the compared heights, so their ends are positions of samples and never go back
(`intervals_of_runs`).
-/

namespace Sightline

/-! ### Ends of intervals -/

section

variable {α β : Type}

/-- The ends of the intervals in their order. -/
def endpoints (intervals : List (Interval α)) : List α :=
  intervals.flatMap fun i => [i.start, i.stop]

theorem endpoints_ofRun (position : Nat → α) (count : Nat) (runs : List (Interval Nat)) :
    endpoints (runs.map (.ofRun position count)) =
      (endpoints (runs.map (.ofRun id count))).map position := by
  simp [endpoints, List.flatMap_map, List.map_flatMap, Interval.ofRun]

theorem mem_endpoints_iff {intervals : List (Interval α)} {x : α} :
    x ∈ endpoints intervals ↔ ∃ i ∈ intervals, x = i.start ∨ x = i.stop := by
  simp [endpoints]

variable [LT β] [OfNat β 0] {margins : List β} {k i first last : Nat} {runs : List (Interval Nat)}

theorem le_closing (count last : Nat) : last ≤ closing count last := by
  rw [closing]
  split <;> omega

theorem closing_le (count last : Nat) : closing count last ≤ last + 1 := by
  rw [closing]
  split <;> omega

theorem IsRun.closing_lt (h : IsRun margins first last) :
    closing margins.length last < margins.length := by
  have := h.last_lt_length
  rw [closing]
  split <;> omega

theorem ListsRuns.lt_length_of_mem_endpoints (h : ListsRuns margins k runs) :
    ∀ j ∈ endpoints (runs.map (.ofRun id margins.length)), j < margins.length := by
  intro j hj
  obtain ⟨interval, hinterval, hend⟩ := mem_endpoints_iff.1 hj
  obtain ⟨run, hrun, rfl⟩ := List.mem_map.1 hinterval
  obtain ⟨hrun, -⟩ := (h.mem_iff run).1 hrun
  have hstop := hrun.closing_lt
  have hle := hrun.first_le_last
  have hlast := hrun.last_lt_length
  rcases hend with rfl | rfl
  · exact Nat.lt_of_le_of_lt hle hlast
  · exact hstop

/-- The samples at the ends of the intervals never go back. -/
theorem ListsRuns.pairwise_endpoints (h : ListsRuns margins k runs) :
    (endpoints (runs.map (.ofRun id margins.length))).Pairwise (· ≤ ·) := by
  rw [endpoints, List.flatMap_map, List.pairwise_flatMap]
  constructor
  · intro run hrun
    have := ((h.mem_iff run).1 hrun).1.first_le_last
    have := le_closing margins.length run.stop
    simp only [Interval.ofRun, id, List.pairwise_cons, List.mem_singleton, forall_eq,
      List.not_mem_nil, false_imp_iff, implies_true, List.Pairwise.nil, and_true]
    omega
  · refine h.ascending.imp_of_mem fun {a b} ha hb hab => ?_
    have := ((h.mem_iff a).1 ha).1.first_le_last
    have := closing_le margins.length a.stop
    have := le_closing margins.length b.stop
    have := ((h.mem_iff b).1 hb).1.first_le_last
    simp only [Interval.ofRun, id, List.mem_cons, List.not_mem_nil, or_false]
    rintro x (rfl | rfl) y (rfl | rfl) <;> omega

/-- A run that reaches the last sample of all is the last run. -/
theorem ListsRuns.getLast?_eq_some (h : ListsRuns margins k runs) {run : Interval Nat}
    (hmem : run ∈ runs) (hend : run.stop + 1 = margins.length) : runs.getLast? = some run := by
  have hascending := h.ascending
  obtain rfl | ⟨before, final, rfl⟩ := List.eq_nil_or_concat' runs
  · cases hmem
  · rw [List.getLast?_concat]
    rcases List.mem_append.1 hmem with hbefore | hfinal
    · -- the last run would begin after the last sample
      have hlt := (List.pairwise_append.1 hascending).2.2 run hbefore final (by simp)
      have hfinal := ((h.mem_iff final).1 (by simp)).1
      have := hfinal.last_lt_length
      have := hfinal.first_le_last
      omega
    · rw [List.mem_singleton.1 hfinal]

/-- An obstructed sample lies before the end of an interval, or is the last sample of all, where the
last interval ends while it is still open. -/
theorem ListsRuns.obstructed_iff (h : ListsRuns margins 0 runs) : Obstructed margins i ↔
    (∃ run ∈ runs, run.start ≤ i ∧ i < closing margins.length run.stop) ∨
      i + 1 = margins.length ∧ ∃ run ∈ runs.getLast?, run.stop = i := by
  constructor
  · intro hi
    obtain ⟨first, last, hrun, hfirst, hlast⟩ := exists_isRun hi
    have hmem := (h.mem_iff ⟨first, last⟩).2 ⟨hrun, Nat.zero_le _⟩
    by_cases hreach : i < closing margins.length last
    · exact .inl ⟨_, hmem, hfirst, hreach⟩
    · have hend : i = last ∧ last + 1 = margins.length := by
        have := hrun.last_lt_length
        rw [closing] at hreach
        split at hreach <;> omega
      exact .inr ⟨by omega, _, h.getLast?_eq_some hmem hend.2, hend.1.symm⟩
  · rintro (⟨run, hmem, hfirst, hlt⟩ | ⟨-, run, hmem, rfl⟩)
    · have := closing_le margins.length run.stop
      exact ((h.mem_iff run).1 hmem).1.obstructed i hfirst (by omega)
    · have hrun := ((h.mem_iff run).1 (List.mem_of_getLast? hmem)).1
      exact hrun.obstructed _ hrun.first_le_last (Nat.le_refl _)

variable [DecidableLT β]

/-- The ends of the scanned intervals are positions of samples. -/
theorem exists_of_mem_endpoints_scan {position : Nat → α} {x : α}
    (h : x ∈ endpoints (scan (margins.mapIdx fun i margin => ⟨position i, margin⟩))) :
    ∃ i < margins.length, x = position i := by
  obtain ⟨runs, hruns, hscan⟩ := exists_runs margins
  rw [hscan, endpoints_ofRun] at h
  obtain ⟨i, hi, rfl⟩ := List.mem_map.1 h
  exact ⟨i, hruns.lt_length_of_mem_endpoints i hi, rfl⟩

/-- Where the positions of the samples never go back, the ends of the scanned intervals do not. -/
theorem pairwise_endpoints_scan {position : Nat → α} {r : α → α → Prop}
    (hr : ∀ i j, i ≤ j → j < margins.length → r (position i) (position j)) :
    (endpoints (scan (margins.mapIdx fun i margin => ⟨position i, margin⟩))).Pairwise r := by
  obtain ⟨runs, hruns, hscan⟩ := exists_runs margins
  rw [hscan, endpoints_ofRun, List.pairwise_map]
  refine hruns.pairwise_endpoints.imp_of_mem fun {i j} _ hj hij => ?_
  exact hr i j hij (hruns.lt_length_of_mem_endpoints j hj)

end

/-! ### Compared heights -/

section

variable {α : Type} [Add α] [Sub α] [Mul α] [Div α] [BEq α] [LT α] [DecidableLT α]

/-- How far the line of sight is above the surface at each sample of the link. -/
def indexMargins [NatCast α] (ray : List α) (spacing : α) (surface : Surface α) : List α :=
  let axis := (List.range ray.length).map fun (i : Nat) => (i : α) * spacing
  List.zipWith (· - ·) ray (resample axis surface.distances surface.heights)

/-- How far the lower edge of the zone is above the surface at each sample of the surface. -/
def distanceMargins (envelope : List (FresnelPoint α)) (surface : Surface α) : List α :=
  List.zipWith (· - ·)
    (resample surface.distances (envelope.map (·.distance)) (envelope.map (·.lower)))
    surface.heights

theorem length_indexMargins_le [NatCast α] (ray : List α) (spacing : α) (surface : Surface α) :
    (indexMargins ray spacing surface).length ≤ ray.length := by
  rw [indexMargins, List.length_zipWith]
  exact Nat.min_le_left _ _

theorem length_distanceMargins_le (envelope : List (FresnelPoint α)) (surface : Surface α) :
    (distanceMargins envelope surface).length ≤ surface.length := by
  rw [distanceMargins, List.length_zipWith, Surface.heights, List.length_map]
  exact Nat.min_le_right _ _

variable [OfNat α 0]

theorem obstructionsByIndex_eq [NatCast α] (ray : List α) (spacing : α) (surface : Surface α) :
    obstructionsByIndex ray spacing surface =
      scan ((indexMargins ray spacing surface).mapIdx fun i margin => ⟨(i : α), margin⟩) := by
  rw [obstructionsByIndex, indexMargins]
  congr 1
  apply List.ext_getElem
  · simp
  · intro i _ _
    simp

theorem obstructionsByDistance_eq (envelope : List (FresnelPoint α)) (surface : Surface α)
    {position : Nat → α} (h : ∀ i (hi : i < surface.length), position i = surface[i].distance) :
    obstructionsByDistance envelope surface =
      scan ((distanceMargins envelope surface).mapIdx fun i margin => ⟨position i, margin⟩) := by
  rw [obstructionsByDistance, distanceMargins]
  congr 1
  apply List.ext_getElem
  · simp [Surface.heights]
  · intro i hi _
    have hsurface : i < surface.length := by
      rw [List.length_zipWith] at hi
      omega
    simp [Surface.heights, h i hsurface]

end

/-- Where the samples of a surface are, by their numbers. -/
def Surface.position {α : Type} [OfNat α 0] (surface : Surface α) (i : Nat) : α :=
  surface.distances[i]?.getD 0

theorem Surface.position_eq {α : Type} [OfNat α 0] (surface : Surface α) {i : Nat}
    (h : i < surface.length) : surface.position i = surface[i].distance := by
  simp [position, distances, h]

/-- No sample lies before an earlier one, and none has a distance that is not a number. -/
def Surface.Ascending {α : Type} [LE α] (surface : Surface α) : Prop :=
  ∀ j (hj : j < surface.length) i (hi : i ≤ j), surface[i].distance ≤ surface[j].distance

instance {α : Type} [LE α] [DecidableLE α] (surface : Surface α) : Decidable surface.Ascending :=
  inferInstanceAs (Decidable (∀ j (_ : j < surface.length) i (_ : i ≤ j), _))

/-- The scan reports one interval for each run of obstructed samples, in their order, and nothing
else. Both kinds of obstructions are scans, of how far the line of sight or the lower edge of the
zone is above the surface. By sample number, the ends of the intervals are numbers of samples and
never go back. By distance they are distances of samples, and never go back if the distances do
not. -/
theorem intervals_of_runs {α β : Type} [LT β] [DecidableLT β] [OfNat β 0] (margins : List β)
    (position : Nat → α) (ray : List Float) (spacing : Float)
    (envelope : List (FresnelPoint Float)) (surface : Surface Float) :
    (∃ runs : List (Interval Nat),
      scan (margins.mapIdx fun i margin => ⟨position i, margin⟩) =
        runs.map (.ofRun position margins.length) ∧
      (∀ run, run ∈ runs ↔ IsRun margins run.start run.stop) ∧
      runs.Pairwise (fun a b => closing margins.length a.stop < b.start) ∧
      ∀ i, Obstructed margins i ↔
        (∃ run ∈ runs, run.start ≤ i ∧ i < closing margins.length run.stop) ∨
          i + 1 = margins.length ∧ ∃ run ∈ runs.getLast?, run.stop = i) ∧
    obstructionsByIndex ray spacing surface =
      scan ((indexMargins ray spacing surface).mapIdx fun i margin => ⟨(i : Float), margin⟩) ∧
    obstructionsByDistance envelope surface =
      scan ((distanceMargins envelope surface).mapIdx fun i margin =>
        ⟨surface.position i, margin⟩) ∧
    (endpoints (obstructionsByIndex ray spacing surface)).Pairwise (· ≤ ·) ∧
    (∀ x ∈ endpoints (obstructionsByIndex ray spacing surface), ∃ i < ray.length, x = (i : Float)) ∧
    (surface.Ascending →
      (endpoints (obstructionsByDistance envelope surface)).Pairwise (· ≤ ·)) ∧
    ∀ x ∈ endpoints (obstructionsByDistance envelope surface), x ∈ surface.distances := by
  have hdistance := obstructionsByDistance_eq envelope surface fun _ => surface.position_eq
  have hsamples := length_distanceMargins_le envelope surface
  rw [obstructionsByIndex_eq, hdistance]
  refine ⟨?_, rfl, rfl, ?_, ?_, ?_, ?_⟩
  · obtain ⟨runs, hruns, hscan⟩ := exists_runs margins
    refine ⟨runs, hscan position, fun run => ?_, hruns.ascending.imp fun {a b} hab => ?_,
      fun i => hruns.obstructed_iff⟩
    · rw [hruns.mem_iff]
      exact and_iff_left (Nat.zero_le _)
    · exact Nat.lt_of_le_of_lt (closing_le _ _) hab
  · exact pairwise_endpoints_scan fun i j hij _ => ofNat_le_ofNat hij
  · intro x hx
    obtain ⟨i, hi, rfl⟩ := exists_of_mem_endpoints_scan hx
    exact ⟨i, Nat.lt_of_lt_of_le hi (length_indexMargins_le _ _ _), rfl⟩
  · intro hascending
    refine pairwise_endpoints_scan fun i j hij hj => ?_
    have hj : j < surface.length := Nat.lt_of_lt_of_le hj hsamples
    rw [surface.position_eq hj, surface.position_eq (Nat.lt_of_le_of_lt hij hj)]
    exact hascending j hj i hij
  · intro x hx
    obtain ⟨i, hi, rfl⟩ := exists_of_mem_endpoints_scan hx
    have hi : i < surface.length := Nat.lt_of_lt_of_le hi hsamples
    rw [surface.position_eq hi]
    exact List.mem_map_of_mem (List.getElem_mem hi)

/-- A surface that rises twice above a level zone and is still too high at its end. Two of its
samples have the same distance. -/
def twoRises : Surface Float :=
  .ofPairs [(0, 90), (20, 120), (40, 90), (60, 120), (60, 130), (100, 140)]

/-- A level zone. -/
def levelZone : List (FresnelPoint Float) := [⟨0, 100, 110⟩, ⟨100, 100, 110⟩]

theorem intervals_of_runs_twoRises : twoRises.Ascending ∧
    obstructionsByDistance levelZone twoRises = [⟨20, 40⟩, ⟨60, 100⟩] ∧
    (endpoints (obstructionsByDistance levelZone twoRises)).Pairwise (· ≤ ·) := by
  have hascending : twoRises.Ascending := by decide +kernel
  obtain ⟨-, -, -, -, -, hends, -⟩ :=
    intervals_of_runs ([] : List Float) (fun i => i) [] 0 levelZone twoRises
  exact ⟨hascending, by decide +kernel, hends hascending⟩

end Sightline
