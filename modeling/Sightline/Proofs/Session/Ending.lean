import Sightline.Proofs.Channel.Lifecycle
import Sightline.Proofs.Session.Handling
import Sightline.Proofs.Session.Staleness
import Sightline.Session.Planner

/-!
# The end of the channel

Events can still come as long as someone holds the shared state of the channel: the background task
until it stops, everyone who has a handle, and the session itself. `Shared` counts them while
handles are cloned and dropped. As the session counts too, the end of the events is never reported:
after the task has stopped and all events are handled, a session waits for good, whatever is done
(`Drained.step`), and its loop takes all the time that it is given (`now_run`).
-/

namespace Sightline

/-! ### The clock of a loop -/

theorem Channel.Action.duration_of_isCall_eq_false {action : Action}
    (h : action.isCall = false) : action.duration = 0 := by
  cases action with
  | elapse => cases h
  | _ => rfl

namespace Backend

variable {b rest : Backend} {c : Channel} {action : Channel.Action}

theorem isCall_of_serve? (h : b.serve? c = some (action, rest)) : action.isCall = false := by
  unfold serve? at h
  split at h
  · cases h
    rfl
  · obtain ⟨p, -, hnext⟩ := Option.bind_eq_some_iff.1 h
    dsimp only at hnext
    split at hnext
    · cases hnext
      rfl
    · cases hnext
      rfl
    · split at hnext
      · cases hnext
        rfl
      · split at hnext
        · cases hnext
        · cases hnext
          rfl

/-- What the background task does next is never a call, so it takes no time. -/
theorem isCall_of_next? (h : b.next? c = some (action, rest)) : action.isCall = false := by
  unfold next? at h
  cases hphase : c.phase with simp only [hphase] at h
  | connecting =>
    split at h
    · cases h
      rfl
    · split at h
      · cases h
        rfl
      · cases h
        rfl
      · split at h
        · cases h
        · cases h
          rfl
  | serving => exact isCall_of_serve? h
  | writing =>
    split at h
    · cases h
      rfl
    · cases h
      rfl
    · cases h
  | leaving =>
    cases h
    rfl
  | waiting =>
    split at h
    · cases h
      rfl
    · split at h
      · cases h
        rfl
      · cases h
  | stopped => cases h

end Backend

namespace Network

theorem now_of_step? {n next : Network} {events : List ChannelEvent}
    (h : n.step? = some (next, events)) : next.channel.now = n.channel.now := by
  obtain ⟨⟨action, backend⟩, hnext, h⟩ := Option.bind_eq_some_iff.1 h
  cases h
  have hnow := (Channel.Move.of_step n.channel action).now_eq
  rwa [Channel.Action.duration_of_isCall_eq_false (Backend.isCall_of_next? hnext),
    Nat.add_zero] at hnow

theorem now_settleWithin (fuel : Nat) (n : Network) :
    (settleWithin fuel n).1.channel.now = n.channel.now := by
  induction fuel generalizing n with
  | zero => rfl
  | succ fuel ih =>
    rw [settleWithin]
    split
    · rfl
    · next hstep => exact (ih _).trans (now_of_step? hstep)

/-- The clock stands still while the background task runs until it waits. -/
theorem now_settle (n : Network) : n.settle.1.channel.now = n.channel.now :=
  now_settleWithin _ n

end Network

namespace Session

theorem receive_ne_ended (s : Session) (event : ChannelEvent) : s.receive event ≠ .ended := by
  intro h
  dsimp only [receive] at h
  split at h <;> cases h

theorem processNext_ne_ended (s : Session) : s.processNext ≠ .ended := by
  cases hp : s.pending with
  | nil =>
    rw [processNext_of_nil hp]
    intro h
    cases h
  | cons event rest =>
    rw [processNext, hp]
    exact receive_ne_ended _ event

theorem channel_processAll (s : Session) : s.processAll.1.channel = s.channel := by
  have hfold : ∀ (events : List ChannelEvent) (t : Session),
      (events.foldl absorb t).channel = t.channel := by
    intro events t
    refine List.foldlRecOn (motive := fun u => u.channel = t.channel) events absorb rfl ?_
    intro u h event _
    exact h
  rw [processAll_fst, hfold]

end Session

namespace Planner

variable {p : Planner}

/-- The time on the clock. -/
def now (p : Planner) : Nat := p.session.channel.now

theorem now_settleChannel (p : Planner) : p.settleChannel.now = p.now :=
  Network.now_settle ⟨p.session.channel, p.backend⟩

theorem now_handleAll (p : Planner) : p.handleAll.1.now = p.now :=
  congrArg Channel.now (Session.channel_processAll _)

theorem now_elapse (p : Planner) (ms : Nat) : (p.elapse ms).now = p.now + ms := rfl

theorem now_runFor (fuel ms : Nat) (stopFirst : Bool) (p : Planner) :
    (runFor fuel ms stopFirst p).1.now = p.now + ms := by
  induction fuel generalizing ms stopFirst p with
  | zero => rfl
  | succ fuel ih =>
    have hsettled : p.settleChannel.handleAll.1.now = p.now :=
      (now_handleAll _).trans p.now_settleChannel
    rw [runFor]
    generalize p.settleChannel.handleAll = settling at hsettled ⊢
    obtain ⟨settled, events⟩ := settling
    cases hnext : settled.session.processNext with
    | ended => exact absurd hnext settled.session.processNext_ne_ended
    | handled | failed | waits =>
      dsimp only at hsettled ⊢
      rw [hnext]
      dsimp only
      split
      · next wait _ =>
        split
        · next hlt =>
          dsimp only
          rw [ih, now_elapse, hsettled]
          omega
        · split
          · exact (now_settleChannel _).trans (congrArg (· + ms) hsettled)
          · exact congrArg (· + ms) hsettled
      · exact congrArg (· + ms) hsettled

/-- The loop takes all the time that it is given, also where the channel has stopped. -/
theorem now_run (p : Planner) (ms : Nat) : (p.run ms).1.now = p.now + ms := by
  show (if ms = 0 then (p, []) else runFor (ms + 1) ms true p).1.now = p.now + ms
  split
  · next h =>
    rw [h]
    rfl
  · exact now_runFor _ ms true p

end Planner

namespace Session

variable {s : Session}

/-! ### After the end -/

/-- The background task has stopped, and all that it emitted is handled. -/
structure Drained (s : Session) : Prop where
  stopped : s.channel.phase = .stopped
  handled : s.pending = []

theorem phase_step_of_stopped (h : s.channel.phase = .stopped) (action : Action) :
    (s.step action).1.channel.phase = .stopped := by
  rw [(Move.of_step s action).channel_eq]
  exact (Channel.run_of_stopped h _).1

/-- Nothing that is done brings another event. -/
theorem Drained.step (h : Drained s) (action : Action) : Drained (s.step action).1 where
  stopped := phase_step_of_stopped h.stopped action
  handled := by
    rw [List.eq_nil_iff_forall_not_mem]
    intro event hevent
    rcases (Move.of_step s action).mem_pending hevent with hpending | ⟨asked, -, hemitted⟩
    · rw [h.handled] at hpending
      cases hpending
    · obtain ⟨-, -, hshown⟩ := (Channel.Move.of_step s.channel asked).of_stopped h.stopped
      rw [hshown] at hemitted
      cases hemitted

/-! ### Holders of the channel -/

theorem length_sources (s : Session) :
    s.sources.length = if s.channel.phase = .stopped then 1 else 2 := by
  unfold sources
  split <;> rfl

/-- A session, and how many hold the shared state of its channel, which sends the events. -/
structure Shared where
  session : Session
  /-- How many handles of the channel others have. -/
  others : Nat
  /-- All who hold the shared state. The sender of the events goes with the last of them. -/
  holders : Nat

namespace Shared

/-- A new session on a channel that was just begun: it has a handle, and the task is at work. -/
def start (config : SessionConfig) (channel : Channel) : Shared := ⟨.start config channel, 0, 2⟩

/-- One step of a run. -/
inductive Action
  /-- The session acts, or its channel moves on. -/
  | session (action : Session.Action)
  /-- Someone takes one more handle. -/
  | clone
  /-- Someone else than the session drops a handle. -/
  | drop

/-- One step. The background task lets go of the shared state when it stops. -/
def step (w : Shared) : Action → Shared
  | .session action =>
    let next := (w.session.step action).1
    let stops := next.channel.phase = .stopped ∧ w.session.channel.phase ≠ .stopped
    { w with session := next, holders := if stops then w.holders - 1 else w.holders }
  | .clone => ⟨w.session, w.others + 1, w.holders + 1⟩
  | .drop => if w.others = 0 then w else ⟨w.session, w.others - 1, w.holders - 1⟩

def run (w : Shared) (actions : List Action) : Shared := actions.foldl step w

/-- What asking for the next event comes to. The end is reported where no event is pending and
nobody is left who holds the shared state. -/
def receive (w : Shared) : Receipt :=
  match w.session.pending with
  | event :: rest => { w.session with pending := rest }.receive event
  | [] => if w.holders = 0 then .ended else .waits

variable {w : Shared}

/-- The holders are the others, the session, and the task until it stops. -/
def Counted (w : Shared) : Prop := w.holders = w.others + w.session.sources.length

theorem Counted.step (h : Counted w) (action : Action) : Counted (w.step action) := by
  rw [Counted, length_sources] at h
  cases action with
  | clone =>
    simp only [Counted, Shared.step, length_sources]
    omega
  | drop =>
    rw [Shared.step]
    split
    · rwa [Counted, length_sources]
    · simp only [Counted, length_sources]
      omega
  | session action =>
    simp only [Counted, Shared.step, length_sources]
    by_cases hs : w.session.channel.phase = .stopped
    · rw [if_pos hs] at h
      rw [if_pos (phase_step_of_stopped hs action), if_neg fun stops => stops.2 hs, h]
    · rw [if_neg hs] at h
      by_cases hnext : (w.session.step action).1.channel.phase = .stopped
      · rw [if_pos hnext, if_pos ⟨hnext, hs⟩, h]
        rfl
      · rw [if_neg hnext, if_neg fun stops => hnext stops.1, h]

theorem Counted.run (h : Counted w) (actions : List Action) : Counted (w.run actions) :=
  List.foldlRecOn actions Shared.step h fun _ h action _ => h.step action

theorem Counted.holders_pos (h : Counted w) : 0 < w.holders := by
  rw [h, length_sources]
  split <;> omega

/-- The session decides by its sources what the count decides. -/
theorem Counted.receive_eq (h : Counted w) : w.receive = w.session.processNext := by
  cases hp : w.session.pending with
  | nil => rw [receive, hp, processNext_of_nil hp, if_neg h.holders_pos.ne']
  | cons event rest => rw [receive, processNext, hp]

theorem Drained.run (h : Drained w.session) (more : List Action) :
    Drained (w.run more).session := by
  refine List.foldlRecOn (motive := fun w => Drained w.session) more step h ?_
  intro v hv action _
  cases action with
  | session action => exact Session.Drained.step hv action
  | clone => exact hv
  | drop =>
    rw [Shared.step]
    split <;> exact hv

end Shared

/-- The end of a channel is never noticed: without a pending event a session waits, however many
handles others have. Once the task has stopped and all events are handled, its own handle is the
only one that it can be sent events by, and it waits for good, whatever is done. Its loop takes all
the time that it is given. -/
theorem stopped_channel_unnoticed (config : SessionConfig) (delay : Nat) (timeout : Option Nat)
    (actions : List Shared.Action) :
    let w := (Shared.start config (.start delay timeout)).run actions
    (w.session.pending = [] → w.receive = .waits) ∧ w.receive ≠ .ended ∧
      (w.session.channel.phase = .stopped → w.holders = w.others + 1) ∧
      (w.session.channel.phase = .stopped → w.session.pending = [] → ∀ more,
        (w.run more).session.pending = [] ∧ (w.run more).receive = .waits) ∧
      ∀ backend ms, ((Planner.start w.session backend).run ms).1.now =
        w.session.channel.now + ms := by
  intro w
  have hcounted : w.Counted :=
    Shared.Counted.run (w := Shared.start config (.start delay timeout)) rfl actions
  refine ⟨?_, ?_, ?_, ?_, fun backend ms => Planner.now_run (.start w.session backend) ms⟩
  · intro hp
    rw [hcounted.receive_eq, processNext_of_nil hp]
  · rw [hcounted.receive_eq]
    exact processNext_ne_ended _
  · intro hstopped
    rw [hcounted, length_sources, if_pos hstopped]
  · intro hstopped hp more
    have hdrained : Drained (w.run more).session := Shared.Drained.run ⟨hstopped, hp⟩ more
    refine ⟨hdrained.handled, ?_⟩
    rw [(hcounted.run more).receive_eq, processNext_of_nil hdrained.handled]

/-- Someone takes a handle, has the channel stop, and drops the handle. -/
def Shared.stopping : List Shared.Action :=
  [.clone, .session (.channel .shutdown), .session (.channel .stop), .drop]

/-- The session alone is left, and it waits. -/
theorem stopped_channel_unnoticed_stopping :
    let w := (Shared.start .initial (.start 1000 none)).run Shared.stopping
    w.session.channel.phase = .stopped ∧ w.session.pending = [] ∧ w.holders = 1 ∧
      w.receive = .waits ∧ (w.run [.session (.channel (.elapse 60000)), .clone]).receive = .waits ∧
      ((Planner.start w.session (.empty .memory)).run 100).1.now = 100 := by
  intro w
  have hstopped : w.session.channel.phase = .stopped := rfl
  have hp : w.session.pending = [] := rfl
  obtain ⟨hwaits, -, hholders, hstays, hloop⟩ :=
    stopped_channel_unnoticed .initial 1000 none Shared.stopping
  exact ⟨hstopped, hp, hholders hstopped, hwaits hp, (hstays hstopped hp _).2, hloop _ 100⟩

/-- It is not so that the end of every channel that has stopped is reported. -/
theorem stopped_channel_not_noticed :
    ¬ ∀ (config : SessionConfig) (delay : Nat) (timeout : Option Nat)
      (actions : List Shared.Action),
      let w := (Shared.start config (.start delay timeout)).run actions
      w.session.channel.isShutDown = true → w.session.channel.phase = .stopped →
        w.session.pending = [] → w.receive = .ended := by
  intro h
  have hended : Receipt.waits = .ended := h .initial 1000 none Shared.stopping rfl rfl rfl
  cases hended

end Session

end Sightline
