import Sightline.Proofs.Coverage.View
import Sightline.Proofs.Lists
import Sightline.Proofs.Session.Handling

/-!
# Published coverage

Every operation that changes the coverage that is shown reports it, with one exception: a
transmitter without coverage can be selected, and removing it changes the selection without a
report. `published_outdated_iff` says that the last report is out of date exactly if such a
removal has brought coverage back and nothing was reported since.
-/

namespace Sightline

/-- The coverage that a report shows, if it is one of coverage. -/
def SessionEvent.coverage? :
    SessionEvent → Option (List (BuildingKey × CoverageRecord) × CoverageSummary)
  | .coverageUpdated rows summary => some (rows, summary)
  | _ => none

namespace Session

variable {s next : Session} {action : Action} {events shown : List SessionEvent}
  {more : List Channel.Action} {turns : List (Session × Action)} {transmitter : String}

/-- The coverage that was reported last. -/
def published? (events : List SessionEvent) :
    Option (List (BuildingKey × CoverageRecord) × CoverageSummary) :=
  (events.filterMap SessionEvent.coverage?).getLast?

/-- The last report of coverage is that of the coverage shown; without a report none is shown. -/
def UpToDate (s : Session) (events : List SessionEvent) : Prop :=
  match published? events with
  | some (rows, summary) => rows = s.coverage.view.rows ∧ summary = s.coverage.view.summary
  | none => s.coverage.view = .empty

/-- The coverage shown was changed without a report: a transmitter that blanked it was removed, and
no later turn has reported coverage. -/
def Unreported (turns : List (Session × Action)) : Prop :=
  ∃ before t transmitter after, turns = before ++ (t, .removeTransmitter transmitter) :: after ∧
    t.coverage.BlankedBy transmitter ∧
    ∀ turn ∈ after, published? (turn.1.step turn.2).2 = none

/-! ### Reports -/

theorem published?_append (first second : List SessionEvent) :
    published? (first ++ second) = (published? second).or (published? first) := by
  simp [published?, List.getLast?_append]

/-- Coverage that has just been reported is up to date. -/
theorem upToDate_of_reported
    (h : published? shown = some (s.coverage.view.rows, s.coverage.view.summary)) :
    UpToDate s (events ++ shown) := by
  rw [UpToDate, published?_append, h]
  exact ⟨rfl, rfl⟩

/-- Without a report, what is up to date depends on the coverage shown. -/
theorem upToDate_append_iff (hshown : published? shown = none)
    (hview : next.coverage.view = s.coverage.view) :
    UpToDate next (events ++ shown) ↔ UpToDate s events := by
  rw [UpToDate, published?_append, hshown, hview]
  rfl

/-- If nothing was shown at the last report, coverage that is shown without one is out of date. -/
theorem UpToDate.not_upToDate_append (h : UpToDate s events) (hshown : published? shown = none)
    (hs : s.coverage.view = .empty) (hnext : next.coverage.view ≠ .empty) :
    ¬ UpToDate next (events ++ shown) := by
  intro hn
  rw [UpToDate, published?_append, hshown, Option.none_or] at hn
  rw [UpToDate] at h
  cases hp : published? events with
  | none =>
    rw [hp] at hn
    exact hnext hn
  | some report =>
    rw [hp] at h hn
    apply hnext
    rw [CoverageSet.eq_empty_iff, ← hn.1, h.1, hs]
    rfl

/-! ### Moves -/

theorem published?_recompute (s : Session) : published? s.recompute = none := by
  rw [recompute]
  split <;> rfl

theorem published?_handleProfile (s : Session) (message : ProfileMessage) :
    published? (s.handleProfile message).2 = none := by
  rw [handleProfile.eq_def]
  split
  · next reason _ =>
    show published? ([.backendError .link reason] ++ recompute _) = none
    rw [published?_append, published?_recompute]
    rfl
  · cases message with
    | terrain a | lidar a | link a =>
      dsimp only
      split
      · exact published?_recompute _
      · rfl

/-- Coverage that an event carries is reported, and no other event reports coverage. -/
theorem published?_handle (s : Session) (event : ChannelEvent) :
    published? (s.handle event).2 = event.coverage?.map fun _ =>
      ((s.absorb event).coverage.view.rows, (s.absorb event).coverage.view.summary) := by
  cases event with
  | connected | disconnected => rfl
  | notification message =>
    show published? (s.handleNotification message).2 = none
    unfold handleNotification
    split <;> rfl
  | response kind id message =>
    cases message with
    | profile message => exact published?_handleProfile s message
    | status message =>
      cases message with
      | apStatus uuid status features =>
        dsimp only [handle, handleStatus, absorb, ChannelEvent.coverage?]
        cases features.bind CoverageSet.ofFeatures <;> rfl
      | standard uuid error => cases error <;> rfl
      | _ => rfl
    | typed answer => rfl

/-- A move that does not report the coverage leaves it alone, or forgets a transmitter that has
none. -/
theorem Move.reports_or_keeps (hm : Move s action next events more) :
    published? events = some (next.coverage.view.rows, next.coverage.view.summary) ∨
      (published? events = none ∧ (next.coverage = s.coverage ∨
        ∃ transmitter, action = .removeTransmitter transmitter ∧
          s.coverage.contains transmitter = false ∧
          next.coverage = s.coverage.remove transmitter)) := by
  cases hm with
  | retuned | adjusted => exact .inr ⟨published?_recompute _, .inl rfl⟩
  | setCoverage | selectTransmitters => exact .inl rfl
  | removeTransmitter transmitter =>
    cases hc : s.coverage.contains transmitter with
    | true => exact .inl rfl
    | false => exact .inr ⟨rfl, .inr ⟨transmitter, rfl, hc, rfl⟩⟩
  | @handled event rest hp =>
    rw [published?_handle, handle_fst]
    cases hc : event.coverage? with
    | some carried => exact .inl rfl
    | none => exact .inr ⟨rfl, .inl (by simp [absorb, hc])⟩
  | _ => exact .inr ⟨rfl, .inl rfl⟩

/-- Without a report the coverage shown stays the same, unless a transmitter that blanked it was
removed; and a selection that is empty stays empty. -/
theorem Move.view_eq (hm : Move s action next events more) (hsilent : published? events = none)
    (hblank : ¬ ∃ t, action = .removeTransmitter t ∧ s.coverage.BlankedBy t) :
    next.coverage.view = s.coverage.view ∧
      (s.coverage.selected = [] → next.coverage.selected = []) := by
  rcases hm.reports_or_keeps with hreport | ⟨-, hkeep | ⟨t, ht, habsent, hremove⟩⟩
  · rw [hsilent] at hreport
    cases hreport
  · rw [hkeep]
    exact ⟨rfl, id⟩
  · rw [hremove]
    refine ⟨Registry.view_remove_of_not_blankedBy habsent fun h => hblank ⟨t, ht, h⟩, ?_⟩
    intro hselected
    simp [Registry.remove, hselected]

theorem step_removeTransmitter (h : s.coverage.contains transmitter = false) :
    s.step (.removeTransmitter transmitter) =
      ({ s with coverage := s.coverage.remove transmitter }, []) := by
  simp [step, Outcome.seen, removeTransmitter, h]

/-! ### Runs -/

theorem unreported_concat :
    Unreported (turns ++ [(s, action)]) ↔
      (∃ t, action = .removeTransmitter t ∧ s.coverage.BlankedBy t) ∨
        (Unreported turns ∧ published? (s.step action).2 = none) := by
  constructor
  · rintro ⟨before, t, transmitter, after, h, hblank, hafter⟩
    rcases concat_eq_append_cons_iff.1 h with ⟨-, hturn, -⟩ | ⟨rest, rfl, rfl⟩
    · obtain ⟨rfl, rfl⟩ := Prod.mk.inj hturn
      exact .inl ⟨transmitter, rfl, hblank⟩
    · rw [List.forall_mem_append, List.forall_mem_singleton] at hafter
      exact .inr ⟨⟨before, t, transmitter, rest, rfl, hblank, hafter.1⟩, hafter.2⟩
  · rintro (⟨transmitter, rfl, hblank⟩ | ⟨⟨before, t, transmitter, after, rfl, hblank, hafter⟩, h⟩)
    · exact ⟨turns, s, transmitter, [], rfl, hblank, by simp⟩
    · refine ⟨before, t, transmitter, after ++ [(s, action)], by simp, hblank, ?_⟩
      rw [List.forall_mem_append, List.forall_mem_singleton]
      exact ⟨hafter, h⟩

/-- Either the reports are up to date, or a change was not reported; then the selection is empty,
and another removal cannot undo the change. -/
def Accounted (turns : List (Session × Action)) (s : Session) (events : List SessionEvent) : Prop :=
  (UpToDate s events ∧ ¬ Unreported turns) ∨
    (¬ UpToDate s events ∧ Unreported turns ∧ s.coverage.selected = [])

theorem Accounted.step (h : Accounted turns s events) (action : Action) :
    Accounted (turns ++ [(s, action)]) (s.step action).1 (events ++ (s.step action).2) := by
  by_cases hblank : ∃ t, action = .removeTransmitter t ∧ s.coverage.BlankedBy t
  · obtain ⟨t, rfl, hb⟩ := hblank
    rcases h with ⟨h, -⟩ | ⟨-, -, hselected⟩
    -- nothing was shown, and now everything is, so no earlier report can match it
    · refine .inr ⟨?_, unreported_concat.2 (.inl ⟨t, rfl, hb⟩), ?_⟩
      · rw [step_removeTransmitter hb.1]
        refine h.not_upToDate_append rfl hb.view_eq ?_
        refine Registry.view_ne_empty_of_selected_eq_nil hb.selected_remove ?_
        rw [Registry.entries_remove_of_contains_eq_false hb.1]
        exact hb.2.2.2
      · rw [step_removeTransmitter hb.1]
        exact hb.selected_remove
    -- after a change that was not reported nothing is selected, so nothing can blank the coverage
    · exact absurd hselected hb.2.1
  · have hm := Move.of_step s action
    rcases hm.reports_or_keeps with hreport | ⟨hsilent, -⟩
    · refine .inl ⟨upToDate_of_reported hreport, ?_⟩
      rw [unreported_concat, hreport]
      rintro (hb | ⟨-, hnone⟩)
      · exact hblank hb
      · cases hnone
    · obtain ⟨hview, hselected⟩ := hm.view_eq hsilent hblank
      rw [Accounted, upToDate_append_iff hsilent hview, unreported_concat]
      rcases h with ⟨h, hnot⟩ | ⟨h, hunreported, hs⟩
      · exact .inl ⟨h, not_or.2 ⟨hblank, fun hu => hnot hu.1⟩⟩
      · exact .inr ⟨h, .inr ⟨hunreported, hsilent⟩, hselected hs⟩

theorem run_accounted (config : SessionConfig) (channel : Channel) (actions : List Action) :
    Accounted ((start config channel).turns actions) ((start config channel).run actions).1
      ((start config channel).run actions).2 := by
  refine turns_induction (.inl ⟨rfl, ?_⟩) (fun action h => h.step action) actions
  rintro ⟨before, t, transmitter, after, h, -⟩
  simp at h

/-- The last report of coverage is out of date exactly if a transmitter that blanked the coverage
was removed and no coverage was reported since. -/
theorem published_outdated_iff (config : SessionConfig) (channel : Channel)
    (actions : List Action) :
    ¬ UpToDate ((start config channel).run actions).1 ((start config channel).run actions).2 ↔
      Unreported ((start config channel).turns actions) := by
  rcases run_accounted config channel actions with ⟨h, hnot⟩ | ⟨hnot, h, -⟩
  · exact iff_of_false (not_not_intro h) hnot
  · exact iff_of_true hnot h

/-- The set with one serviceable building. -/
def oneBuilding : CoverageSet := CoverageSet.empty.put (.id 1) ⟨none, .serviceable⟩

/-- A transmitter without coverage is selected, and removed again. -/
def selectedInVain : List Action :=
  [.setCoverage "a" oneBuilding, .selectTransmitters ["b"], .removeTransmitter "b"]

/-- The coverage that is shown again is not reported. -/
theorem published_outdated :
    ¬ ∀ (config : SessionConfig) (channel : Channel) (actions : List Action),
      UpToDate ((start config channel).run actions).1 ((start config channel).run actions).2 := by
  intro h
  have hrun : UpToDate (sample.run selectedInVain).1 (sample.run selectedInVain).2 :=
    h .initial (.start 1000 none) selectedInVain
  have hpublished : published? (sample.run selectedInVain).2 = some ([], ⟨0, 0, 0⟩) := by
    decide +kernel
  have hshown : (sample.run selectedInVain).1.coverage.view.rows ≠ [] := by decide +kernel
  rw [UpToDate, hpublished] at hrun
  exact hshown hrun.1.symm

end Session

end Sightline
