import Sightline.Proofs.Config.Settings
import Sightline.Proofs.Link.Faults
import Sightline.Proofs.Session.Handling
import Sightline.Proofs.Session.Refusal

/-!
# Valid parameters

A configuration gives a session parameters without a fault, and every operation checks the
parameters before it takes them over. So they never have a fault (`Move.fault?_eq_none`): the
analysis fails for its terrain alone, and an operation is refused for its own arguments alone
(`parameters_stay_valid`).
-/

namespace Sightline.Session

variable {s next : Session} {action : Action} {events : List SessionEvent}
  {more : List Channel.Action}

/-! ### Steps -/

/-- A move keeps the parameters, or takes over such as have no fault. -/
theorem Move.params_eq_or_valid (hm : Move s action next events more) :
    next.link.params = s.link.params ∨ next.link.params.fault? = none := by
  cases hm with
  | retuned hf | requested hf | adjusted _ hf => exact .inr hf
  | @handled event rest =>
    refine .inl ?_
    rw [handle_fst]
    cases hp : event.profile? <;> simp [absorb, hp, LinkState.absorb_params]
  | _ => exact .inl rfl

theorem Move.fault?_eq_none (hm : Move s action next events more)
    (h : s.link.params.fault? = none) : next.link.params.fault? = none := by
  rcases hm.params_eq_or_valid with heq | hvalid
  · rw [heq, h]
  · exact hvalid

theorem fault?_start {config : SessionConfig} (hfrequency : isPositive config.frequency = true)
    (hzone : config.zone ≠ 0) (channel : Channel) :
    (start config channel).link.params.fault? = none := by
  have hheight : LinkState.initialHeight.isFinite = true := by decide +kernel
  exact LinkParameters.fault?_eq_none_iff.2 ⟨hfrequency, hzone, hheight, hheight⟩

/-! ### Operations -/

/-- Operations are refused for their own arguments alone, never for parameters set before. -/
structure Unblocked (s : Session) : Prop where
  updateRequest : ∀ id query,
    (s.updateRequest id query).result.isOk = true ↔ isPositive query.frequency = true
  setFrequency : ∀ frequency,
    (s.setFrequency frequency).result.isOk = true ↔ isPositive frequency = true
  setZone : ∀ zone, (s.setZone zone).result.isOk = true ↔ zone ≠ 0
  setRadioHeights : ∀ tx rx, (s.setRadioHeights tx rx).result.isOk = true ↔
    (s.units.heightToMeters tx).isFinite = true ∧ (s.units.heightToMeters rx).isFinite = true

theorem unblocked_of_valid (h : s.link.params.fault? = none) : Unblocked s := by
  obtain ⟨hfrequency, hzone, htx, hrx⟩ := LinkParameters.fault?_eq_none_iff.1 h
  constructor
  · intro id query
    simp [isOk_updateRequest, LinkParameters.fault?_eq_none_iff, tuned, hzone, htx, hrx]
  · intro frequency
    simp [Session.setFrequency, isOk_updateParams, LinkParameters.fault?_eq_none_iff, hzone, htx,
      hrx]
  · intro zone
    simp [Session.setZone, isOk_updateParams, LinkParameters.fault?_eq_none_iff, hfrequency, htx,
      hrx]
  · intro tx rx
    simp [Session.setRadioHeights, isOk_updateParams, LinkParameters.fault?_eq_none_iff,
      hfrequency, hzone]

/-! ### Runs -/

theorem run_fault?_eq_none (h : s.link.params.fault? = none) (actions : List Action) :
    (s.run actions).1.link.params.fault? = none := by
  refine run_induction (P := fun _ _ last _ => last.link.params.fault? = none) h ?_ actions
  intro actions asked action last next events shown more ih hm
  exact hm.fault?_eq_none ih

/-- The parameters of a session that was started from a configuration never have a fault. So an
analysis fails for its terrain alone, and no operation for parameters that were set before. -/
theorem parameters_stay_valid (text : String) (config : Config)
    (hconfig : Config.parse text = .ok config) (channel : Channel) (actions : List Action) :
    let s := ((start config.session channel).run actions).1
    s.link.params.fault? = none ∧
      (∀ fault, s.link.analysis? = some (.error fault) → fault.isOfTerrain = true) ∧
      Unblocked s := by
  intro s
  obtain ⟨hfrequency, hzone⟩ := Config.session_of_parse hconfig
  have hvalid : s.link.params.fault? = none :=
    run_fault?_eq_none (fault?_start hfrequency hzone channel) actions
  exact ⟨hvalid, fun fault h => LinkState.isOfTerrain_of_analysis? hvalid h,
    unblocked_of_valid hvalid⟩

/-- Feet, a high frequency and the second zone. -/
def imperialText : String := "[session]\nunits = us\nfrequency_ghz = 24\nfresnel_zone = 2\n"

def imperial : Config := ⟨.initial, ⟨24, 2, .us⟩⟩

/-- A height, a zone and a frequency are refused, before and after a terrain of one sample. -/
def misadjusted : List Action :=
  [.setRadioHeights (0 / 0) 30, .setZone 0, .updateRequest ⟨1⟩ sampleQuery, .channel .connect,
    .channel (.receive ("\x7b\"handler\":\"terrain\",\"dist\":10,\"terrain_profile\":[[1,0,0]]," ++
      "\"hash\":\"0,0,1,0,a,0,1:00000000-0000-0000-0000-000000000001\"\x7d")),
    .processNext, .processNext, .setFrequency (1 / 0), .setRadioHeights 30 60]

theorem parameters_stay_valid_misadjusted :
    Config.parse imperialText = .ok imperial ∧
      let s := ((start imperial.session (.start 1000 none)).run misadjusted).1
      s.link.analysis? = some (.error (.tooFewSamples 1)) ∧
        (GeometryFault.tooFewSamples 1).isOfTerrain = true ∧
        s.link.params.fault? = none ∧ (s.setZone 3).result.isOk = true ∧
        (s.setFrequency (0 / 0)).result.isOk = false := by
  have hconfig : Config.parse imperialText = .ok imperial := by decide +kernel
  obtain ⟨hvalid, hanalysis, hunblocked⟩ :=
    parameters_stay_valid imperialText imperial hconfig (.start 1000 none) misadjusted
  have hfault : ((start imperial.session (.start 1000 none)).run misadjusted).1.link.analysis? =
      some (.error (.tooFewSamples 1)) := by
    decide +kernel
  refine ⟨hconfig, hfault, hanalysis _ hfault, hvalid, ?_, ?_⟩
  · exact (hunblocked.setZone 3).2 (by decide)
  · rw [← Bool.not_eq_true, hunblocked.setFrequency]
    decide +kernel

end Sightline.Session
