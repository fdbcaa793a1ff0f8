import Sightline.Proofs.Session.Move

/-!
# Published analyses

The analysis of a link depends on its link state alone. A step of a session either leaves the link
state as it is and reports no analysis, or it ends with the report of the analysis afterwards
(`Move.republishes`). Over a whole run the reports therefore never fall behind the link state:
`published_analysis`.
-/

namespace Sightline

/-- The analysis that a report shows, if it is one of the link. -/
def SessionEvent.analysis? : SessionEvent → Option LinkAnalysis
  | .linkAnalysis analysis => some analysis
  | _ => none

namespace Session

variable {s next : Session} {action : Action} {events shown : List SessionEvent}
  {more : List Channel.Action}

/-- None of the reports shows an analysis. -/
def Quiet (events : List SessionEvent) : Prop := ∀ event ∈ events, event.analysis? = none

/-- The reports are not behind the link state. The analysis, if there is one, is the last that was
reported; a fault in its place was reported, and no analysis after it. -/
structure Published (s : Session) (events : List SessionEvent) : Prop where
  analysis : ∀ analysis, s.link.analysis? = some (.ok analysis) →
    (events.filterMap SessionEvent.analysis?).getLast? = some analysis
  fault : ∀ fault, s.link.analysis? = some (.error fault) →
    ∃ before after, events = before ++ .backendError .link fault.message :: after ∧ Quiet after

/-- The step leaves the link state as it is and reports no analysis, or it ends with the report of
the analysis afterwards. -/
def Republishes (s next : Session) (events : List SessionEvent) : Prop :=
  (next.link = s.link ∧ Quiet events) ∨ ∃ shown, Quiet shown ∧ events = shown ++ next.recompute

theorem quiet_nil : Quiet [] := by simp [Quiet]

theorem quiet_singleton {event : SessionEvent} (h : event.analysis? = none) : Quiet [event] := by
  simp [Quiet, h]

theorem Quiet.append (h : Quiet events) (hshown : Quiet shown) : Quiet (events ++ shown) :=
  List.forall_mem_append.2 ⟨h, hshown⟩

theorem Republishes.of_link_eq (h : next.link = s.link) : Republishes s next [] :=
  .inl ⟨h, quiet_nil⟩

theorem republishes_recompute (s next : Session) : Republishes s next next.recompute :=
  .inr ⟨[], quiet_nil, rfl⟩

/-! ### Steps -/

theorem republishes_handleProfile (s : Session) (message : ProfileMessage) :
    Republishes s (s.handleProfile message).1 (s.handleProfile message).2 := by
  rw [handleProfile.eq_def]
  split
  · -- an error is reported first, and then what is left of the analysis
    exact .inr ⟨[_], quiet_singleton rfl, rfl⟩
  · cases message with
    | terrain a | lidar a =>
      dsimp only
      split
      · exact republishes_recompute s _
      · exact .inl ⟨rfl, quiet_singleton rfl⟩
    | link a =>
      dsimp only
      split
      · exact republishes_recompute s _
      · exact .of_link_eq rfl

theorem republishes_handle (s : Session) (event : ChannelEvent) :
    Republishes s (s.handle event).1 (s.handle event).2 := by
  cases event with
  | connected | disconnected => exact .inl ⟨rfl, quiet_singleton rfl⟩
  | notification message =>
    show Republishes s (s.handleNotification message).1 (s.handleNotification message).2
    unfold handleNotification
    split
    · exact .inl ⟨rfl, quiet_singleton rfl⟩
    · exact .of_link_eq rfl
  | response kind id message =>
    cases message with
    | profile message => exact republishes_handleProfile s message
    | typed answer => exact .inl ⟨rfl, quiet_singleton rfl⟩
    | status message =>
      cases message with
      | apStatus uuid status features =>
        dsimp only [handle, handleStatus]
        split
        · exact .inl ⟨rfl, quiet_singleton rfl⟩
        · exact .inl ⟨rfl, (quiet_singleton rfl).append (quiet_singleton rfl)⟩
      | standard uuid error =>
        cases error with
        | none => exact .of_link_eq rfl
        | some text => exact .inl ⟨rfl, quiet_singleton rfl⟩
      | _ => exact .inl ⟨rfl, quiet_singleton rfl⟩

theorem Move.republishes (hm : Move s action next events more) : Republishes s next events := by
  cases hm with
  | retuned | adjusted => exact republishes_recompute s _
  | requested hf hk =>
    -- nothing is known of the new link, so there is nothing to report
    exact .inr ⟨[], quiet_nil, rfl⟩
  | setCoverage | selectTransmitters => exact .inl ⟨rfl, quiet_singleton rfl⟩
  | removeTransmitter transmitter =>
    split
    · exact .inl ⟨rfl, quiet_singleton rfl⟩
    · exact .of_link_eq rfl
  | @handled event rest hp => exact republishes_handle { s with pending := rest } event
  | _ => exact .of_link_eq rfl

/-! ### Runs -/

theorem Published.append_quiet (h : Published s events) (hlink : next.link = s.link)
    (hshown : Quiet shown) : Published next (events ++ shown) := by
  constructor
  · intro analysis ha
    rw [hlink] at ha
    rw [List.filterMap_append, List.filterMap_eq_nil_iff.2 hshown, List.append_nil]
    exact h.analysis analysis ha
  · intro fault hf
    rw [hlink] at hf
    obtain ⟨before, after, rfl, hafter⟩ := h.fault fault hf
    exact ⟨before, after ++ shown, by simp, hafter.append hshown⟩

/-- The report of the analysis makes good for all that was missed before. -/
theorem published_append_recompute (s : Session) (events : List SessionEvent) :
    Published s (events ++ s.recompute) := by
  constructor
  · intro analysis ha
    simp [recompute, ha, SessionEvent.analysis?]
  · intro fault hf
    simp only [recompute, hf]
    exact ⟨events, [], rfl, quiet_nil⟩

theorem Published.step (h : Published s events) (hstep : Republishes s next shown) :
    Published next (events ++ shown) := by
  rcases hstep with ⟨hlink, hquiet⟩ | ⟨quiet, -, rfl⟩
  · exact h.append_quiet hlink hquiet
  · rw [← List.append_assoc]
    exact published_append_recompute next (events ++ quiet)

theorem run_published (config : SessionConfig) (channel : Channel) (actions : List Action) :
    Published ((start config channel).run actions).1 ((start config channel).run actions).2 := by
  refine run_induction (P := fun _ _ last events => Published last events) ?_ ?_ actions
  · exact ⟨nofun, nofun⟩
  · intro actions asked action last next events shown more h hm
    exact h.step hm.republishes

/-- After every run the reports are not behind the link state, and no action changes the link state
without a report of the analysis afterwards, if there is one. -/
theorem published_analysis (config : SessionConfig) (channel : Channel) (actions : List Action) :
    let s := ((start config channel).run actions).1
    Published s ((start config channel).run actions).2 ∧
      ∀ action, (s.step action).1.link = s.link ∨
        (s.step action).1.recompute <:+ (s.step action).2 := by
  intro s
  refine ⟨run_published config channel actions, fun action => ?_⟩
  rcases (Move.of_step s action).republishes with ⟨hlink, -⟩ | ⟨shown, -, hshown⟩
  · exact .inl hlink
  · exact .inr ⟨shown, hshown.symm⟩

/-- The terrain of the sample link comes, and then a single sample in its place. -/
def shortened : List Action :=
  [.channel .connect, .processNext, .updateRequest ⟨1⟩ sampleQuery,
    .channel (.receive sampleTerrain), .processNext,
    .channel (.receive ("\x7b\"handler\":\"terrain\",\"terrain_profile\":[[1,0,0]]," ++
      "\"hash\":\"0,0,1,0,a,0,1:00000000-0000-0000-0000-000000000001\"\x7d"))]

theorem exists_of_any_isOk {found : Option (Except GeometryFault LinkAnalysis)}
    (h : found.any Except.isOk = true) : ∃ analysis, found = some (.ok analysis) := by
  rcases found with _ | fault | analysis
  · cases h
  · cases h
  · exact ⟨analysis, rfl⟩

/-- The analysis of the terrain was reported last, and then the fault that takes its place. -/
theorem published_analysis_shortened :
    (∃ analysis, (sample.run shortened).1.link.analysis? = some (.ok analysis) ∧
        ((sample.run shortened).2.filterMap SessionEvent.analysis?).getLast? = some analysis) ∧
      (sample.run (shortened ++ [.processNext])).1.link.analysis? =
          some (.error (.tooFewSamples 1)) ∧
        ∃ before after, (sample.run (shortened ++ [.processNext])).2 =
          before ++ .backendError .link (GeometryFault.tooFewSamples 1).message :: after ∧
            Quiet after := by
  have hbefore : Published (sample.run shortened).1 (sample.run shortened).2 := by
    obtain ⟨h, -⟩ := published_analysis .initial (.start 1000 none) shortened
    exact h
  have hafter : Published (sample.run (shortened ++ [.processNext])).1
      (sample.run (shortened ++ [.processNext])).2 := by
    obtain ⟨h, -⟩ := published_analysis .initial (.start 1000 none) (shortened ++ [.processNext])
    exact h
  have hok : (sample.run shortened).1.link.analysis?.any Except.isOk = true := by decide +kernel
  have hfault : (sample.run (shortened ++ [.processNext])).1.link.analysis? =
      some (.error (.tooFewSamples 1)) := by
    decide +kernel
  obtain ⟨analysis, hanalysis⟩ := exists_of_any_isOk hok
  exact ⟨⟨analysis, hanalysis, hbefore.analysis _ hanalysis⟩, hfault, hafter.fault _ hfault⟩

end Session

end Sightline
