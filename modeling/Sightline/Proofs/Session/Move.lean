import Sightline.Proofs.Channel.Move
import Sightline.Session.Step

/-!
# Moves of a session

`Move` lists everything that one step of a session can do, together with what the step asks of the
channel. A run of a session is thus a run of its channel (`run_channel`) in which the session takes
its own turns; `run_induction` is the induction over both, and `turns_induction` the one over the
sessions that the actions meet.
-/

namespace Sightline.Session

/-! ### What a session asks of its channel -/

/-- What one step asks of the channel. -/
def asks (s : Session) : Action → List Channel.Action
  | .updateRequest id query =>
    match (s.updateRequest id query).result with
    | .ok (some _) => [.send id (.link query)]
    | _ => []
  | .zoom id start stop =>
    match Aoi.make? start stop, s.query with
    | some aoi, some query => [.send id (.link { query with aoi := aoi })]
    | _, _ => []
  | .requestAccessPoint id transmitter => [.send id (.accessPoint transmitter)]
  | .request id request => [.send id (.typed request)]
  | .cancel kind => [.cancel kind]
  | .channel action => [action]
  | _ => []

/-- What a run asks of the channel. -/
def history (s : Session) : List Action → List Channel.Action
  | [] => []
  | action :: rest => s.asks action ++ (s.step action).1.history rest

/-! ### Handling -/

/-- Nothing that is handled reaches the channel or the stored query; the key may be forgotten. -/
structure Handled (s next : Session) : Prop where
  units : next.units = s.units
  channel : next.channel = s.channel
  pending : next.pending = s.pending
  query : next.query = s.query
  queryKey : next.queryKey = s.queryKey ∨ next.queryKey = none

theorem Handled.refl (s : Session) : Handled s s := ⟨rfl, rfl, rfl, rfl, .inl rfl⟩

theorem handled_profileFailed (s : Session) (message : ProfileMessage) (reason : String) :
    Handled s (s.profileFailed message reason) := by
  cases message with
  | lidar a =>
    simp only [profileFailed]
    split
    · exact ⟨rfl, rfl, rfl, rfl, .inl rfl⟩
    · exact .refl s
  | terrain a =>
    simp only [profileFailed]
    split
    · exact ⟨rfl, rfl, rfl, rfl, .inr rfl⟩
    · exact .refl s
  | link a => exact ⟨rfl, rfl, rfl, rfl, .inr rfl⟩

theorem handled_handleProfile (s : Session) (message : ProfileMessage) :
    Handled s (s.handleProfile message).1 := by
  rw [handleProfile.eq_def]
  split
  · exact handled_profileFailed s message _
  · cases message with
    | terrain a | lidar a => dsimp only; split <;> exact ⟨rfl, rfl, rfl, rfl, .inl rfl⟩
    | link a => dsimp only; split <;> exact ⟨rfl, rfl, rfl, rfl, .inl rfl⟩

theorem handled_handleStatus (s : Session) (kind : RequestKind) (message : StatusMessage) :
    Handled s (s.handleStatus kind message).1 := by
  cases message with
  | apStatus uuid status features =>
    dsimp only [handleStatus]
    split <;> exact ⟨rfl, rfl, rfl, rfl, .inl rfl⟩
  | _ => exact .refl s

theorem handled_handle (s : Session) (event : ChannelEvent) : Handled s (s.handle event).1 := by
  cases event with
  | connected | disconnected => exact .refl s
  | notification message =>
    show Handled s (s.handleNotification message).1
    unfold handleNotification
    split <;> exact .refl s
  | response kind id message =>
    cases message with
    | profile message => exact handled_handleProfile s message
    | status message => exact handled_handleStatus s kind message
    | typed answer => exact .refl s

/-! ### Steps -/

/-- The parameters of the link with the frequency of a query. -/
def tuned (s : Session) (query : LinkQuery) : LinkParameters :=
  { s.link.params with frequency := query.frequency }

/-- The parameters that an action sets, if it sets any. -/
def adjusted? (s : Session) : Action → Option LinkParameters
  | .setRadioHeights tx rx => some { s.link.params with
      txHeight := s.units.heightToMeters tx
      rxHeight := s.units.heightToMeters rx }
  | .setFrequency frequency => some { s.link.params with frequency := frequency }
  | .setZone zone => some { s.link.params with zone := zone }
  | _ => none

/-- The session with other parameters of its link. -/
def withParams (s : Session) (params : LinkParameters) : Session :=
  { s with link := { s.link with params := params } }

/-- The session whose stored query has another frequency. -/
def retune (s : Session) (frequency : Float) : Session :=
  { s with query := s.query.map fun query => { query with frequency := frequency } }

/-- What one action does to a session, with its reports and what it asks of the channel. -/
inductive Move (s : Session) :
    Action → Session → List SessionEvent → List Channel.Action → Prop
  | invalid {id : RequestId} {query : LinkQuery} {fault : GeometryFault}
      (hf : (s.tuned query).fault? = some fault) : Move s (.updateRequest id query) s [] []
  | repeated {id : RequestId} {query : LinkQuery} (hf : (s.tuned query).fault? = none)
      (hk : s.queryKey = some query.dedupeKey)
      (hs : (query.frequency == s.link.params.frequency) = true) :
      Move s (.updateRequest id query) (s.retune query.frequency) [] []
  | retuned {id : RequestId} {query : LinkQuery} (hf : (s.tuned query).fault? = none)
      (hk : s.queryKey = some query.dedupeKey)
      (hs : (query.frequency == s.link.params.frequency) = false) :
      Move s (.updateRequest id query)
        ((s.retune query.frequency).withParams (s.tuned query))
        ((s.retune query.frequency).withParams (s.tuned query)).recompute []
  | requested {id : RequestId} {query : LinkQuery} (hf : (s.tuned query).fault? = none)
      (hk : s.queryKey ≠ some query.dedupeKey) :
      Move s (.updateRequest id query)
        { s.send id (.link query) with
          link := .initial (s.tuned query)
          query := some query
          queryKey := some query.dedupeKey }
        [] [.send id (.link query)]
  | misplaced {id : RequestId} {start stop : Float}
      (h : Aoi.make? start stop = none ∨ s.query = none) : Move s (.zoom id start stop) s [] []
  | zoomed {id : RequestId} {start stop : Float} {aoi : Aoi} {query : LinkQuery}
      (ha : Aoi.make? start stop = some aoi) (hq : s.query = some query) :
      Move s (.zoom id start stop) (s.send id (.link { query with aoi := aoi })) []
        [.send id (.link { query with aoi := aoi })]
  | unadjusted {action : Action} {params : LinkParameters} {fault : GeometryFault}
      (ha : s.adjusted? action = some params) (hf : params.fault? = some fault) :
      Move s action s [] []
  | adjusted {action : Action} {params : LinkParameters} (ha : s.adjusted? action = some params)
      (hf : params.fault? = none) :
      Move s action (s.withParams params) (s.withParams params).recompute []
  | setCoverage (transmitter : String) (set : CoverageSet) :
      Move s (.setCoverage transmitter set)
        { s with coverage := s.coverage.set transmitter set }
        (publishCoverage { s with coverage := s.coverage.set transmitter set }) []
  | removeTransmitter (transmitter : String) :
      Move s (.removeTransmitter transmitter)
        { s with coverage := s.coverage.remove transmitter }
        (if s.coverage.contains transmitter then
          publishCoverage { s with coverage := s.coverage.remove transmitter } else []) []
  | selectTransmitters (transmitters : List String) :
      Move s (.selectTransmitters transmitters)
        { s with coverage := s.coverage.select transmitters }
        (publishCoverage { s with coverage := s.coverage.select transmitters }) []
  | requestAccessPoint (id : RequestId) (transmitter : String) :
      Move s (.requestAccessPoint id transmitter) (s.send id (.accessPoint transmitter)) []
        [.send id (.accessPoint transmitter)]
  | request (id : RequestId) (request : TypedRequest) :
      Move s (.request id request) (s.send id (.typed request)) [] [.send id (.typed request)]
  | cancel (kind : RequestKind) :
      Move s (.cancel kind)
        { s with
          channel := s.channel.cancel kind
          queryKey := if kind = .link then none else s.queryKey }
        [] [.cancel kind]
  | channel (action : Channel.Action) :
      Move s (.channel action) (s.channelStep action) [] [action]
  | handled {event : ChannelEvent} {rest : List ChannelEvent} (hp : s.pending = event :: rest) :
      Move s .processNext (handle { s with pending := rest } event).1
        (handle { s with pending := rest } event).2 []
  | waits (hp : s.pending = []) : Move s .processNext s [] []

/-- Setting parameters: they are refused, or they are taken over. -/
theorem Move.of_updateParams {s : Session} {action : Action} {params : LinkParameters}
    (ha : s.adjusted? action = some params) :
    Move s action (s.updateParams params).session (s.updateParams params).events [] := by
  rw [updateParams]
  split
  · next hf => exact .unadjusted ha hf
  · next hf => exact .adjusted ha hf

theorem updateRequest_of_invalid {s : Session} {query : LinkQuery} {fault : GeometryFault}
    (hf : (s.tuned query).fault? = some fault) (id : RequestId) :
    s.updateRequest id query = s.refuse (.geometry fault) := by
  rw [tuned] at hf
  simp only [updateRequest, hf]

theorem updateRequest_of_repeated {s : Session} {query : LinkQuery}
    (hf : (s.tuned query).fault? = none) (hk : s.queryKey = some query.dedupeKey)
    (hs : (query.frequency == s.link.params.frequency) = true) (id : RequestId) :
    s.updateRequest id query = ⟨s.retune query.frequency, [], .ok none⟩ := by
  rw [tuned] at hf
  simp only [updateRequest, hf, if_pos hk, if_pos hs]
  rfl

theorem updateRequest_of_retuned {s : Session} {query : LinkQuery}
    (hf : (s.tuned query).fault? = none) (hk : s.queryKey = some query.dedupeKey)
    (hs : (query.frequency == s.link.params.frequency) = false) (id : RequestId) :
    s.updateRequest id query =
      ⟨(s.retune query.frequency).withParams (s.tuned query),
        ((s.retune query.frequency).withParams (s.tuned query)).recompute, .ok none⟩ := by
  rw [tuned] at hf
  simp only [updateRequest, updateParams, hf, if_pos hk, hs, Bool.false_eq_true, if_false]
  rfl

theorem updateRequest_of_requested {s : Session} {query : LinkQuery}
    (hf : (s.tuned query).fault? = none) (hk : s.queryKey ≠ some query.dedupeKey)
    (id : RequestId) :
    s.updateRequest id query =
      ⟨{ s.send id (.link query) with
          link := .initial (s.tuned query)
          query := some query
          queryKey := some query.dedupeKey }, [], .ok (some id)⟩ := by
  rw [tuned] at hf
  simp only [updateRequest, hf, if_neg hk]
  rfl

theorem Move.of_updateRequest (s : Session) (id : RequestId) (query : LinkQuery) :
    Move s (.updateRequest id query) (s.updateRequest id query).session
      (s.updateRequest id query).events (s.asks (.updateRequest id query)) := by
  cases hf : (s.tuned query).fault? with
  | some fault =>
    simp only [asks, updateRequest_of_invalid hf, refuse]
    exact .invalid hf
  | none =>
    by_cases hk : s.queryKey = some query.dedupeKey
    · cases hs : query.frequency == s.link.params.frequency with
      | true =>
        simp only [asks, updateRequest_of_repeated hf hk hs]
        exact .repeated hf hk hs
      | false =>
        simp only [asks, updateRequest_of_retuned hf hk hs]
        exact .retuned hf hk hs
    · simp only [asks, updateRequest_of_requested hf hk]
      exact .requested hf hk

theorem Move.of_zoom (s : Session) (id : RequestId) (start stop : Float) :
    Move s (.zoom id start stop) (s.zoom id start stop).session
      (s.zoom id start stop).events (s.asks (.zoom id start stop)) := by
  cases ha : Aoi.make? start stop with
  | none =>
    simp only [asks, zoom, ha, refuse]
    exact .misplaced (.inl ha)
  | some aoi =>
    cases hq : s.query with
    | none =>
      simp only [asks, zoom, ha, hq, refuse]
      exact .misplaced (.inr hq)
    | some query =>
      simp only [asks, zoom, ha, hq]
      exact .zoomed ha hq

/-- The session holds a handle of its channel, so it can always be sent another event. -/
theorem processNext_of_nil {s : Session} (hp : s.pending = []) : s.processNext = .waits := by
  simp [processNext, hp, sources]

theorem step_processNext_of_nil {s : Session} (hp : s.pending = []) :
    s.step .processNext = (s, []) := by
  simp only [step, processNext_of_nil hp]

theorem step_processNext_of_cons {s : Session} {event : ChannelEvent} {rest : List ChannelEvent}
    (hp : s.pending = event :: rest) :
    s.step .processNext = handle { s with pending := rest } event := by
  simp only [step, processNext, hp, receive]
  cases event.overflows <;> rfl

/-- Every step is a move. -/
theorem Move.of_step (s : Session) (action : Action) :
    Move s action (s.step action).1 (s.step action).2 (s.asks action) := by
  cases action with
  | updateRequest id query => exact .of_updateRequest s id query
  | zoom id start stop => exact .of_zoom s id start stop
  | setRadioHeights tx rx => exact .of_updateParams rfl
  | setFrequency frequency => exact .of_updateParams rfl
  | setZone zone => exact .of_updateParams rfl
  | setCoverage transmitter set => exact .setCoverage transmitter set
  | removeTransmitter transmitter => exact .removeTransmitter transmitter
  | selectTransmitters transmitters => exact .selectTransmitters transmitters
  | requestAccessPoint id transmitter => exact .requestAccessPoint id transmitter
  | request id request => exact .request id request
  | cancel kind => exact .cancel kind
  | channel action => exact .channel action
  | processNext =>
    cases hp : s.pending with
    | nil =>
      rw [step_processNext_of_nil hp]
      exact .waits hp
    | cons event rest =>
      rw [step_processNext_of_cons hp]
      exact .handled hp

/-! ### Runs -/

theorem run_append (s : Session) (first second : List Action) :
    s.run (first ++ second) =
      (((s.run first).1.run second).1, (s.run first).2 ++ ((s.run first).1.run second).2) := by
  induction first generalizing s with
  | nil => simp
  | cons action rest ih => simp only [List.cons_append, run_cons, ih, List.append_assoc]

theorem run_concat (s : Session) (actions : List Action) (action : Action) :
    s.run (actions ++ [action]) =
      (((s.run actions).1.step action).1,
        (s.run actions).2 ++ ((s.run actions).1.step action).2) := by
  simp [run_append, run_cons]

theorem history_append (s : Session) (first second : List Action) :
    s.history (first ++ second) = s.history first ++ (s.run first).1.history second := by
  induction first generalizing s with
  | nil => rfl
  | cons action rest ih => simp only [List.cons_append, history, run_cons, ih, List.append_assoc]

theorem history_concat (s : Session) (actions : List Action) (action : Action) :
    s.history (actions ++ [action]) = s.history actions ++ (s.run actions).1.asks action := by
  simp [history_append, history]

/-- What holds of the empty run, and is kept when a run goes on by one move, holds of every run.
It may speak of the history that the run has asked of the channel. -/
theorem run_induction {s : Session}
    {P : List Action → List Channel.Action → Session → List SessionEvent → Prop}
    (start : P [] [] s [])
    (move : ∀ {actions asked action last next events shown more}, P actions asked last events →
      Move last action next shown more →
        P (actions ++ [action]) (asked ++ more) next (events ++ shown))
    (actions : List Action) :
    P actions (s.history actions) (s.run actions).1 (s.run actions).2 := by
  induction actions using List.reverseRecOn with
  | nil => exact start
  | append_singleton actions action ih =>
    rw [run_concat, history_concat]
    exact move ih (Move.of_step _ action)

/-- The turns of a run: each action together with the session that it meets. -/
def turns (s : Session) : List Action → List (Session × Action)
  | [] => []
  | action :: rest => (s, action) :: (s.step action).1.turns rest

theorem turns_concat (s : Session) (actions : List Action) (action : Action) :
    s.turns (actions ++ [action]) = s.turns actions ++ [((s.run actions).1, action)] := by
  induction actions generalizing s with
  | nil => rfl
  | cons first rest ih => simp only [List.cons_append, turns, run_cons, ih]

/-- The induction over runs for what is read off the turns. -/
theorem turns_induction {s : Session}
    {P : List (Session × Action) → Session → List SessionEvent → Prop} (start : P [] s [])
    (step : ∀ {turns last events} (action : Action), P turns last events →
      P (turns ++ [(last, action)]) (last.step action).1 (events ++ (last.step action).2))
    (actions : List Action) : P (s.turns actions) (s.run actions).1 (s.run actions).2 := by
  induction actions using List.reverseRecOn with
  | nil => exact start
  | append_singleton actions action ih =>
    rw [run_concat, turns_concat]
    exact step action ih

/-- A move of the session moves the channel by what it asks of it. -/
theorem Move.channel_eq {s next : Session} {action : Action} {events : List SessionEvent}
    {more : List Channel.Action} (hm : Move s action next events more) :
    next.channel = (s.channel.run more).1 := by
  cases hm with
  | handled => exact (handled_handle _ _).channel
  | _ => rfl

theorem run_channel (s : Session) (actions : List Action) :
    (s.run actions).1.channel = (s.channel.run (s.history actions)).1 := by
  refine run_induction (P := fun _ asked last _ => last.channel = (s.channel.run asked).1) rfl ?_
    actions
  intro actions asked action last next events shown more h hm
  rw [hm.channel_eq, h, Channel.run_append]

/-! ### A sample -/

/-- A link along the equator. -/
def sampleQuery : LinkQuery where
  tx := ⟨0, 0, by decide +kernel, by decide +kernel⟩
  rx := ⟨1, 0, by decide +kernel, by decide +kernel⟩
  clientId := "a"
  aoi := .full
  frequency := 5

/-- A part of the sample link. -/
def zoomedQuery : LinkQuery := { sampleQuery with aoi := ⟨0.25, 0.5⟩ }

theorem asks_zoom {s : Session} {query : LinkQuery} (hq : s.query = some query) (id : RequestId) :
    s.asks (.zoom id 0.25 0.5) = [.send id (.link { query with aoi := ⟨0.25, 0.5⟩ })] := by
  have ha : Aoi.make? 0.25 0.5 = some ⟨0.25, 0.5⟩ := by decide +kernel
  simp only [asks, ha, hq]

/-- The terrain of the sample link, in answer to its first request. -/
def sampleTerrain : String :=
  "\x7b\"handler\":\"terrain\",\"dist\":10,\"terrain_profile\":[[1,0,0],[2,0,1]]," ++
    "\"hash\":\"0,0,1,0,a,0,1:00000000-0000-0000-0000-000000000001\"\x7d"

/-- A new session whose requests do not expire. -/
def sample : Session := start .initial (.start 1000 none)

end Sightline.Session
