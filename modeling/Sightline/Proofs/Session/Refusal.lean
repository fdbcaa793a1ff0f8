import Sightline.Proofs.Session.Move

/-!
# Refused operations

An operation is refused exactly if something speaks against its arguments in the session that it
meets (`refusal?_eq_objection?`). All that is checked is checked before anything is written, so a
refused operation leaves the session as it is, its channel included, and reports nothing. A run
therefore comes to the same without its refused operations: `refused_unchanged`.
-/

namespace Sightline.Session

variable {s next : Session} {action : Action} {events : List SessionEvent}
  {more : List Channel.Action} {fault : SessionFault}

/-- The fault for which an operation was refused. -/
def Outcome.refusal? {α : Type} (o : Outcome α) : Option SessionFault :=
  match o.result with
  | .error fault => some fault
  | .ok _ => none

/-- The fault for which an action is refused. -/
def refusal? (s : Session) : Action → Option SessionFault
  | .updateRequest id query => Outcome.refusal? (s.updateRequest id query)
  | .zoom id start stop => Outcome.refusal? (s.zoom id start stop)
  | .setRadioHeights tx rx => Outcome.refusal? (s.setRadioHeights tx rx)
  | .setFrequency frequency => Outcome.refusal? (s.setFrequency frequency)
  | .setZone zone => Outcome.refusal? (s.setZone zone)
  | .setCoverage transmitter set => Outcome.refusal? (s.setCoverage transmitter set)
  | .removeTransmitter transmitter => Outcome.refusal? (s.removeTransmitter transmitter)
  | .selectTransmitters transmitters => Outcome.refusal? (s.selectTransmitters transmitters)
  | .requestAccessPoint id transmitter => Outcome.refusal? (s.requestAccessPoint id transmitter)
  | .request id request => Outcome.refusal? (s.request id request)
  | .cancel kind => Outcome.refusal? (s.cancel kind)
  | .channel _ | .processNext => none

/-- What speaks against an action: a fault of the parameters that it would set, a bad part of the
link, or no link to look at a part of. -/
def objection? (s : Session) : Action → Option SessionFault
  | .updateRequest _ query => (s.tuned query).fault?.map .geometry
  | .zoom _ start stop =>
    match Aoi.make? start stop with
    | none => some (.badAoi start stop)
    | some _ => if s.query.isNone then some .noLink else none
  | action => ((s.adjusted? action).bind LinkParameters.fault?).map .geometry

theorem objection?_of_adjusted? {params : LinkParameters} (ha : s.adjusted? action = some params) :
    s.objection? action = params.fault?.map .geometry := by
  cases action with
  | setRadioHeights tx rx | setFrequency frequency | setZone zone =>
    cases ha
    rfl
  | _ => cases ha

theorem refusal?_updateParams (s : Session) (params : LinkParameters) :
    Outcome.refusal? (s.updateParams params) = params.fault?.map .geometry := by
  rw [updateParams]
  split
  · next fault hf => rw [hf, refuse, Outcome.refusal?, Option.map_some]
  · next hf => rw [hf, Outcome.refusal?, Option.map_none]

theorem refusal?_updateRequest (s : Session) (id : RequestId) (query : LinkQuery) :
    Outcome.refusal? (s.updateRequest id query) = (s.tuned query).fault?.map .geometry := by
  cases hf : (s.tuned query).fault? with
  | some fault => rw [updateRequest_of_invalid hf, refuse, Outcome.refusal?, Option.map_some]
  | none =>
    by_cases hk : s.queryKey = some query.dedupeKey
    · cases hs : query.frequency == s.link.params.frequency with
      | true => rw [updateRequest_of_repeated hf hk hs, Outcome.refusal?, Option.map_none]
      | false => rw [updateRequest_of_retuned hf hk hs, Outcome.refusal?, Option.map_none]
    · rw [updateRequest_of_requested hf hk, Outcome.refusal?, Option.map_none]

theorem isOk_iff_refusal? {α : Type} (o : Outcome α) :
    o.result.isOk = true ↔ Outcome.refusal? o = none := by
  rw [Outcome.refusal?]
  cases o.result <;> simp [Except.isOk, Except.toBool]

theorem isOk_updateParams (s : Session) (params : LinkParameters) :
    (s.updateParams params).result.isOk = true ↔ params.fault? = none := by
  rw [isOk_iff_refusal?, refusal?_updateParams, Option.map_eq_none_iff]

theorem isOk_updateRequest (s : Session) (id : RequestId) (query : LinkQuery) :
    (s.updateRequest id query).result.isOk = true ↔ (s.tuned query).fault? = none := by
  rw [isOk_iff_refusal?, refusal?_updateRequest, Option.map_eq_none_iff]

/-- An action is refused exactly for what speaks against it. -/
theorem refusal?_eq_objection? (s : Session) (action : Action) :
    s.refusal? action = s.objection? action := by
  cases action with
  | updateRequest id query => exact refusal?_updateRequest s id query
  | zoom id start stop =>
    cases ha : Aoi.make? start stop with
    | none => simp [refusal?, objection?, zoom, ha, refuse, Outcome.refusal?]
    | some aoi =>
      cases hq : s.query <;> simp [refusal?, objection?, zoom, ha, hq, refuse, Outcome.refusal?]
  | setRadioHeights tx rx | setFrequency frequency | setZone zone =>
    exact refusal?_updateParams s _
  | _ => rfl

/-- A move that is refused goes nowhere. -/
theorem Move.of_refused (hm : Move s action next events more)
    (h : s.refusal? action = some fault) : next = s ∧ events = [] ∧ more = [] := by
  rw [refusal?_eq_objection?] at h
  cases hm with
  | invalid | misplaced | unadjusted => exact ⟨rfl, rfl, rfl⟩
  | repeated hf | retuned hf | requested hf =>
    rw [objection?, hf] at h
    cases h
  | zoomed ha hq => simp [objection?, ha, hq] at h
  | adjusted ha hf =>
    rw [objection?_of_adjusted? ha, hf] at h
    cases h
  | _ => cases h

/-! ### Runs -/

/-- The actions of a run that are not refused. -/
def accepted (s : Session) : List Action → List Action
  | [] => []
  | action :: rest =>
    let others := (s.step action).1.accepted rest
    if (s.refusal? action).isSome then others else action :: others

theorem step_of_refused (h : s.refusal? action = some fault) :
    s.step action = (s, []) ∧ s.asks action = [] := by
  obtain ⟨hnext, hevents, hasks⟩ := (Move.of_step s action).of_refused h
  exact ⟨Prod.ext hnext hevents, hasks⟩

/-- Without its refused operations a run comes to the same, and so does what it asks of the
channel. -/
theorem run_accepted (s : Session) (actions : List Action) :
    s.run (s.accepted actions) = s.run actions ∧
      s.history (s.accepted actions) = s.history actions := by
  induction actions generalizing s with
  | nil => exact ⟨rfl, rfl⟩
  | cons action rest ih =>
    obtain ⟨hrun, hhistory⟩ := ih (s.step action).1
    rw [accepted, run_cons, history]
    cases h : s.refusal? action with
    | none =>
      rw [Option.isSome_none, if_neg Bool.false_ne_true, run_cons, history, hrun, hhistory]
      exact ⟨rfl, rfl⟩
    | some fault =>
      obtain ⟨hstep, hasks⟩ := step_of_refused h
      rw [hstep] at hrun hhistory ⊢
      rw [Option.isSome_some, if_pos rfl, hasks, hrun, hhistory]
      exact ⟨rfl, rfl⟩

/-- An operation that is refused leaves the session with its channel as it is, reports nothing and
asks nothing of the channel, and it is refused exactly for what speaks against it. So every run
comes to the same without its refused operations. -/
theorem refused_unchanged (s : Session) (actions : List Action) :
    (∀ action fault, s.refusal? action = some fault →
      s.step action = (s, []) ∧ s.asks action = [] ∧ s.objection? action = some fault) ∧
    s.run (s.accepted actions) = s.run actions ∧
      s.history (s.accepted actions) = s.history actions := by
  refine ⟨fun action fault h => ?_, run_accepted s actions⟩
  obtain ⟨hstep, hasks⟩ := step_of_refused h
  exact ⟨hstep, hasks, by rw [← refusal?_eq_objection?, h]⟩

/-- The sample link is repeated with a frequency that is no number, and a part of it is turned
around. -/
def refusedTwice : List Action :=
  [.updateRequest ⟨1⟩ sampleQuery, .updateRequest ⟨2⟩ { sampleQuery with frequency := 0 / 0 },
    .zoom ⟨3⟩ 0.5 0.25, .setZone 2]

theorem refused_unchanged_refusedTwice :
    let s := (sample.run (refusedTwice.take 1)).1
    let again : Action := .updateRequest ⟨2⟩ { sampleQuery with frequency := 0 / 0 }
    s.queryKey = some sampleQuery.dedupeKey ∧
      s.refusal? again = some (.geometry (.frequency (0 / 0))) ∧ s.step again = (s, []) ∧
      s.asks again = [] ∧ (sample.accepted refusedTwice).length = 2 ∧
      sample.run (sample.accepted refusedTwice) = sample.run refusedTwice := by
  intro s again
  have hkey : s.queryKey = some sampleQuery.dedupeKey := by decide +kernel
  have hrefused : s.refusal? again = some (.geometry (.frequency (0 / 0))) := by decide +kernel
  have hlength : (sample.accepted refusedTwice).length = 2 := by decide +kernel
  obtain ⟨hunchanged, -⟩ := refused_unchanged s []
  obtain ⟨hstep, hasks, -⟩ := hunchanged _ _ hrefused
  obtain ⟨-, hrun, -⟩ := refused_unchanged sample refusedTwice
  exact ⟨hkey, hrefused, hstep, hasks, hlength, hrun⟩

end Sightline.Session
