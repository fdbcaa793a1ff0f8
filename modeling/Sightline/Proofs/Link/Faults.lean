import Sightline.Session.LinkState

/-!
# Faults of the analysis

With parameters that have no fault the analysis of a link can only fail for its terrain:
`LinkState.isOfTerrain_of_analysis?`.
-/

namespace Sightline

/-- Whether a fault lies in the terrain of a link or in its length, and not in the parameters. -/
def GeometryFault.isOfTerrain : GeometryFault → Bool
  | .tooFewSamples _ | .spacing _ => true
  | .frequency _ | .zone _ => false
  | .nonFinite what _ => what = "elevation sample"

variable {fault : GeometryFault}

theorem Terrain.isOfTerrain_of_make {samples : List Float} {spacing : Float}
    (h : make samples spacing = .error fault) : fault.isOfTerrain = true := by
  rw [make] at h
  split at h
  · split at h
    · split at h <;> cases h
      rfl
    · cases h
      rfl
  · cases h
    rfl

theorem Terrain.isOfTerrain_of_spanning {samples : List Float} {distance : Float}
    (h : spanning samples distance = .error fault) : fault.isOfTerrain = true := by
  rw [spanning] at h
  split at h
  · cases h
    rfl
  · exact isOfTerrain_of_make h

theorem LinkProfile.exists_compute {params : LinkParameters} (hp : params.fault? = none)
    (terrain : Terrain) : ∃ profile, compute terrain params = .ok profile := by
  simp only [compute, hp]
  exact ⟨_, rfl⟩

/-- With parameters that have no fault, only the terrain can stand against an analysis. -/
theorem LinkState.isOfTerrain_of_analysis? {l : LinkState} (hp : l.params.fault? = none)
    (h : l.analysis? = some (.error fault)) : fault.isOfTerrain = true := by
  obtain ⟨samples, -, h⟩ := Option.bind_eq_some_iff.1 h
  obtain ⟨distance, -, h⟩ := Option.bind_eq_some_iff.1 h
  have h := Option.some.inj h
  rw [analyzeOver] at h
  cases hterrain : Terrain.spanning samples distance with
  | error found =>
    rw [hterrain] at h
    obtain rfl : found = fault := Except.error.inj h
    exact Terrain.isOfTerrain_of_spanning hterrain
  | ok terrain =>
    obtain ⟨profile, hprofile⟩ := LinkProfile.exists_compute hp terrain
    rw [hterrain] at h
    simp only [bind, Except.bind, hprofile] at h
    cases h

end Sightline
