import Mathlib.Data.List.Chain
import Sightline.Proofs.Channel.Dispatch

/-!
# The life of connections

A run is a sequence of connections, all of them over but perhaps the last. Each begins with the
event `connected`, passes on what the frames that its stream yields come to, and ends with the event
`disconnected`; `Lifecycle` says that a run shows nothing else, how the state moves meanwhile, and
how long the state stays closed before the next attempt. `run_lifecycle` proves it of every run.
-/

namespace Sightline

/-- The state of the connection that goes with a phase of the task. -/
def TaskPhase.state : TaskPhase → ConnectionState
  | .connecting => .connecting
  | .serving | .writing | .leaving _ => .open
  | .waiting _ | .stopped => .closedRetrying

/-- The moves of the state. -/
inductive ConnectionState.Leads : ConnectionState → ConnectionState → Prop
  | opens : Leads .connecting .open
  | fails : Leads .connecting .closedRetrying
  | closes : Leads .open .closedRetrying
  | retries : Leads .closedRetrying .connecting

/-- Whether an event says that the connection came up, or that it went down. -/
def ChannelEvent.isUp? : ChannelEvent → Option Bool
  | .connected => some true
  | .disconnected => some false
  | _ => none

namespace Channel

variable {c d : Channel} {action : Action} {effects shown : List Effect}
  {turns : List (Channel × Action)} {text : String}

/-! ### Connections of a run -/

/-- The frames that the stream of a connection yielded, each with the channel that it met. -/
abbrev Yield := List (Channel × String)

/-- The connections of a run: what those that are over yielded, and what the current one yielded so
far. -/
structure Connections where
  past : List Yield
  current : Option Yield

/-- What the frames of a stream come to. -/
def routed (frames : Yield) : List ChannelEvent := frames.filterMap fun (c, text) => c.route text

/-- The events of connections, one after the other. The current one has not ended yet. -/
def Connections.events (k : Connections) : List ChannelEvent :=
  k.past.flatMap (fun frames => .connected :: (routed frames ++ [.disconnected])) ++
    k.current.elim [] fun frames => .connected :: routed frames

/-- What a turn adds. A connection begins with an attempt that succeeds, its stream yields a frame
while it is served, and it is over when its writer is detached. -/
def Connections.record (k : Connections) (turn : Channel × Action) : Connections :=
  match turn.2, turn.1.phase with
  | .connect, .connecting => { k with current := some [] }
  | .receive text, .serving => { k with current := k.current.map (· ++ [(turn.1, text)]) }
  | .detach, .leaving _ => ⟨k.past ++ k.current.toList, none⟩
  | _, _ => k

/-- The connections that the turns of a run make. -/
def connections (turns : List (Channel × Action)) : Connections :=
  turns.foldl Connections.record ⟨[], none⟩

theorem connections_concat (turns : List (Channel × Action)) (c : Channel) (action : Action) :
    connections (turns ++ [(c, action)]) = (connections turns).record (c, action) := by
  simp [connections]

/-- The state became `closedRetrying` some time ago, when an attempt failed or a connection was
closed, and it has been so since. -/
def ClosedFor (turns : List (Channel × Action)) (ms : Nat) : Prop :=
  ∃ before t ended after, turns = before ++ (t, ended) :: after ∧
    t.state ≠ .closedRetrying ∧ (t.step ended).1.state = .closedRetrying ∧
    (∀ turn ∈ after, turn.1.state = .closedRetrying) ∧ elapsed (after.map Prod.snd) = ms

/-- What every run has in common with the life of its connections. -/
structure Lifecycle (delay : Nat) (turns : List (Channel × Action)) (c : Channel)
    (effects : List Effect) : Prop where
  /-- The events are those of the connections, and there is a current one while the channel is
  open. -/
  events : emitted effects = (connections turns).events
  open_iff : (connections turns).current.isSome = true ↔ c.state = .open
  /-- Up and down alternate, beginning with up. -/
  alternates : ((emitted effects).filterMap ChannelEvent.isUp?).IsChain (· ≠ ·)
  begins_up : ∀ up ∈ ((emitted effects).filterMap ChannelEvent.isUp?).head?, up = true
  /-- An attempt that fails shows nothing. -/
  refuse_silent : (c.step .refuse).2 = []
  leads : ∀ action, (c.step action).1.state = c.state ∨ c.state.Leads (c.step action).1.state
  /-- An attempt begins no sooner than the delay after the state was closed. -/
  waits : ∀ action, c.state ≠ .connecting → (c.step action).1.state = .connecting →
    ∃ ms, ClosedFor turns ms ∧ delay ≤ ms
  /-- A task that has stopped stays so, whatever is done: the state stays closed, and nothing is
  emitted or written. -/
  stays_stopped : c.phase = .stopped → ∀ more, (c.run more).1.phase = .stopped ∧
    (c.run more).1.state = .closedRetrying ∧ (c.run more).2 = []

/-! ### The state -/

theorem Move.state_eq (hm : Move c action d shown) (h : c.state = c.phase.state) :
    d.state = d.phase.state := by
  cases hm with
  | send => simpa using h
  | cancel | elapse | shutdown | reorder | receive | idle => exact h
  | connect | refuse | detach | retry | stop => rfl
  | beginWrite hp | written hp | failed hp | lose hp =>
    rw [hp] at h
    exact h

theorem Move.leads (hm : Move c action d shown) (h : c.state = c.phase.state) :
    d.state = c.state ∨ c.state.Leads d.state := by
  cases hm with
  | send => exact .inl (by simp)
  | connect hp =>
    rw [hp] at h
    exact .inr (h ▸ .opens)
  | refuse hp =>
    rw [hp] at h
    exact .inr (h ▸ .fails)
  | detach hp =>
    rw [hp] at h
    exact .inr (h ▸ .closes)
  | retry hp =>
    rw [hp] at h
    exact .inr (h ▸ .retries)
  | stop hp =>
    rcases hp with hp | ⟨deadline, hp⟩
    · rw [hp] at h
      exact .inr (h ▸ .fails)
    · rw [hp] at h
      exact .inl h.symm
  | _ => exact .inl rfl

/-- Only `retry` begins another attempt. -/
theorem Move.retry_of_connecting (hm : Move c action d shown) (h : c.state ≠ .connecting)
    (hd : d.state = .connecting) : ∃ deadline, c.phase = .waiting deadline ∧ deadline ≤ c.now := by
  cases hm with
  | retry hp hdeadline => exact ⟨_, hp, hdeadline⟩
  | connect | refuse | detach | stop => cases hd
  | send => exact absurd (by simpa using hd) h
  | _ => exact absurd hd h

/-- Nothing but calls happens to a task that has stopped. -/
theorem Move.of_stopped (hm : Move c action d shown) (h : c.phase = .stopped) :
    d.phase = .stopped ∧ d.state = c.state ∧ shown = [] := by
  cases hm with
  | send => simpa using h
  | cancel | elapse | shutdown | reorder | idle => exact ⟨h, rfl, rfl⟩
  | connect hp | refuse hp | receive hp | beginWrite hp | written hp | failed hp | lose hp
  | detach hp | retry hp =>
    rw [hp] at h
    cases h
  | stop hp =>
    rcases hp with hp | ⟨deadline, hp⟩ <;>
    · rw [hp] at h
      cases h

theorem run_of_stopped (h : c.phase = .stopped) (more : List Action) :
    (c.run more).1.phase = .stopped ∧ (c.run more).1.state = c.state ∧ (c.run more).2 = [] := by
  induction more generalizing c with
  | nil => exact ⟨h, rfl, rfl⟩
  | cons action rest ih =>
    obtain ⟨hphase, hstate, hshown⟩ := (Move.of_step c action).of_stopped h
    obtain ⟨hlast, hlastState, hmore⟩ := ih hphase
    rw [run_cons, hshown, hmore]
    exact ⟨hlast, hlastState.trans hstate, rfl⟩

/-! ### Events -/

theorem emitted_append (first second : List Effect) :
    emitted (first ++ second) = emitted first ++ emitted second := by
  simp [emitted]

/-- The events so far are those of the connections, and the current one is the open one. -/
structure Recorded (k : Connections) (c : Channel) (effects : List Effect) : Prop where
  open_iff : k.current.isSome = true ↔ c.state = .open
  events : emitted effects = k.events

/-- What is neither the beginning nor the end of a connection, and shows no event. -/
theorem Recorded.of_silent {k : Connections} (h : Recorded k c effects)
    (hshown : emitted shown = []) (hopen : d.state = .open ↔ c.state = .open) :
    Recorded k d (effects ++ shown) := by
  refine ⟨h.open_iff.trans hopen.symm, ?_⟩
  rw [emitted_append, hshown, List.append_nil, h.events]

/-- Nothing but an attempt that succeeds, a frame and a detached writer shows an event. -/
theorem Move.silent (hm : Move c action d shown) (hconnect : action ≠ .connect)
    (hreceive : ∀ text, action ≠ .receive text) (hdetach : action ≠ .detach)
    (h : c.state = c.phase.state) : emitted shown = [] ∧ (d.state = .open ↔ c.state = .open) := by
  cases hm with
  | connect => exact absurd rfl hconnect
  | receive => exact absurd rfl (hreceive _)
  | detach => exact absurd rfl hdetach
  | send => exact ⟨rfl, by simp⟩
  | cancel | elapse | shutdown | reorder | beginWrite | written | failed | lose | idle =>
    exact ⟨rfl, Iff.rfl⟩
  | refuse hp | retry hp =>
    rw [hp] at h
    exact ⟨rfl, by simp [await, h, TaskPhase.state]⟩
  | stop hp =>
    refine ⟨rfl, ?_⟩
    rcases hp with hp | ⟨deadline, hp⟩ <;>
    · rw [hp] at h
      simp [h, TaskPhase.state]

theorem Recorded.connect {k : Connections} (h : Recorded k c effects)
    (hs : c.state = c.phase.state) (hp : c.phase = .connecting) :
    Recorded { k with current := some [] } (c.step .connect).1
      (effects ++ (c.step .connect).2) := by
  have hnone : k.current = none := by
    have hsome : ¬ k.current.isSome = true := by simp [h.open_iff, hs, hp, TaskPhase.state]
    simpa using hsome
  simp only [Channel.step, hp]
  refine ⟨by simp, ?_⟩
  rw [emitted_append, h.events]
  simp [Connections.events, hnone, emitted, routed]

theorem Recorded.receive {k : Connections} (h : Recorded k c effects)
    (hs : c.state = c.phase.state) (hp : c.phase = .serving) (text : String) :
    Recorded { k with current := k.current.map (· ++ [(c, text)]) } (c.step (.receive text)).1
      (effects ++ (c.step (.receive text)).2) := by
  have hsome : k.current.isSome = true := by simp [h.open_iff, hs, hp, TaskPhase.state]
  obtain ⟨frames, hcurrent⟩ := Option.isSome_iff_exists.1 hsome
  rw [step_receive, if_pos hp]
  refine ⟨by simp [h.open_iff], ?_⟩
  rw [emitted_append, h.events]
  cases hr : c.route text <;> simp [Connections.events, hcurrent, emitted, routed, hr]

theorem Recorded.detach {k : Connections} (h : Recorded k c effects)
    (hs : c.state = c.phase.state) {failed : Option String} (hp : c.phase = .leaving failed) :
    Recorded ⟨k.past ++ k.current.toList, none⟩ (c.step .detach).1
      (effects ++ (c.step .detach).2) := by
  have hsome : k.current.isSome = true := by simp [h.open_iff, hs, hp, TaskPhase.state]
  obtain ⟨frames, hcurrent⟩ := Option.isSome_iff_exists.1 hsome
  simp only [Channel.step, hp]
  refine ⟨by simp [await], ?_⟩
  rw [emitted_append, h.events]
  simp [Connections.events, hcurrent, emitted]

theorem Recorded.step {k : Connections} (h : Recorded k c effects)
    (hs : c.state = c.phase.state) (action : Action) :
    Recorded (k.record (c, action)) (c.step action).1 (effects ++ (c.step action).2) := by
  have hm := Move.of_step c action
  -- an action that does not fit where the task stands changes neither side
  have hunfit : c.step action = (c, []) → k.record (c, action) = k →
      Recorded (k.record (c, action)) (c.step action).1 (effects ++ (c.step action).2) := by
    intro hstep hrecord
    rw [hstep, hrecord, List.append_nil]
    exact h
  cases action with
  | connect =>
    cases hp : c.phase with
    | connecting =>
      simp only [Connections.record, hp]
      exact h.connect hs hp
    | _ => exact hunfit (by simp [Channel.step, hp]) (by simp [Connections.record, hp])
  | receive text =>
    cases hp : c.phase with
    | serving =>
      simp only [Connections.record, hp]
      exact h.receive hs hp text
    | _ => exact hunfit (by simp [Channel.step, hp]) (by simp [Connections.record, hp])
  | detach =>
    cases hp : c.phase with
    | leaving failed =>
      simp only [Connections.record, hp]
      exact h.detach hs hp
    | _ => exact hunfit (by simp [Channel.step, hp]) (by simp [Connections.record, hp])
  | _ =>
    obtain ⟨hshown, hopen⟩ := hm.silent (by simp) (by simp) (by simp) hs
    exact h.of_silent hshown hopen

/-! ### Up and down -/

/-- What a frame comes to is neither. -/
theorem isUp?_routed (frames : Yield) : (routed frames).filterMap ChannelEvent.isUp? = [] := by
  rw [List.filterMap_eq_nil_iff]
  intro event h
  obtain ⟨⟨c, text⟩, -, hroute⟩ := List.mem_filterMap.1 h
  have hr : Routed c text (some event) := by
    have hof := Routed.of_route c text
    rwa [show c.route text = some event from hroute] at hof
  cases hr <;> rfl

theorem Connections.isUp?_events (k : Connections) :
    k.events.filterMap ChannelEvent.isUp? =
      (k.past.flatMap fun _ => [true, false]) ++ k.current.elim [] fun _ => [true] := by
  rw [Connections.events, List.filterMap_append, List.filterMap_flatMap]
  congr 1
  · congr 1
    funext frames
    simp [isUp?_routed, ChannelEvent.isUp?]
  · cases k.current <;> simp [isUp?_routed, ChannelEvent.isUp?]

theorem alternates_events (k : Connections) :
    (k.events.filterMap ChannelEvent.isUp?).IsChain (· ≠ ·) ∧
      ∀ up ∈ (k.events.filterMap ChannelEvent.isUp?).head?, up = true := by
  -- every connection that is over puts an up and a down in front
  rw [k.isUp?_events]
  generalize k.current = current
  induction k.past with
  | nil => cases current <;> simp
  | cons frames rest ih =>
    obtain ⟨hchain, hhead⟩ := ih
    rw [List.flatMap_cons, List.append_assoc]
    refine ⟨?_, by simp⟩
    show (true :: false :: _).IsChain (· ≠ ·)
    rw [List.isChain_cons_cons, List.isChain_cons]
    refine ⟨by simp, ?_, hchain⟩
    intro up hup
    rw [hhead up hup]
    simp

/-! ### The wait between attempts -/

theorem ClosedFor.concat {ms : Nat} (h : ClosedFor turns ms) (hc : c.state = .closedRetrying)
    (action : Action) : ClosedFor (turns ++ [(c, action)]) (ms + action.duration) := by
  obtain ⟨before, t, ended, after, rfl, ht, hended, hafter, rfl⟩ := h
  refine ⟨before, t, ended, after ++ [(c, action)], by simp, ht, hended, ?_, ?_⟩
  · rw [List.forall_mem_append, List.forall_mem_singleton]
    exact ⟨hafter, hc⟩
  · rw [List.map_append]
    exact elapsed_concat _ action

/-- The state was closed as long before the deadline as the delay. -/
structure Waited (delay : Nat) (turns : List (Channel × Action)) (c : Channel) : Prop where
  delay_eq : c.reconnectDelay = delay
  closed : ∀ deadline, c.phase = .waiting deadline →
    ∃ ms, ClosedFor turns ms ∧ deadline + ms = c.now + delay

theorem Move.reconnectDelay_eq (hm : Move c action d shown) :
    d.reconnectDelay = c.reconnectDelay := by
  cases hm with
  | send => simp
  | _ => rfl

/-- A wait begins when an attempt fails or a connection is closed, or it goes on. -/
theorem Move.of_waiting (hm : Move c action d shown) {deadline : Nat}
    (h : d.phase = .waiting deadline) :
    c.phase = .waiting deadline ∨
      (c.phase.state ≠ .closedRetrying ∧ d.now = c.now ∧ deadline = c.now + c.reconnectDelay) := by
  cases hm with
  | send => exact .inl (by simpa using h)
  | cancel | elapse | shutdown | reorder | receive | idle => exact .inl h
  | refuse hp | detach hp =>
    cases h
    exact .inr ⟨by simp [hp, TaskPhase.state], rfl, rfl⟩
  | connect | beginWrite | written | failed | lose | retry | stop => cases h

theorem Waited.step {delay : Nat} (h : Waited delay turns c) (hs : c.state = c.phase.state)
    (action : Action) : Waited delay (turns ++ [(c, action)]) (c.step action).1 := by
  have hm := Move.of_step c action
  refine ⟨hm.reconnectDelay_eq.trans h.delay_eq, ?_⟩
  intro deadline hd
  rcases hm.of_waiting hd with hc | ⟨hc, hnow, rfl⟩
  · obtain ⟨ms, hclosed, hms⟩ := h.closed deadline hc
    have hstate : c.state = .closedRetrying := by rw [hs, hc]; rfl
    exact ⟨_, hclosed.concat hstate action, by rw [hm.now_eq]; omega⟩
  · have hnext : (c.step action).1.state = .closedRetrying := by
      rw [hm.state_eq hs, hd]
      rfl
    rw [← hs] at hc
    refine ⟨0, ⟨turns, c, action, [], rfl, hc, hnext, by simp, rfl⟩, ?_⟩
    rw [hnow, h.delay_eq, Nat.add_zero]

theorem Waited.closedFor {delay : Nat} (h : Waited delay turns c) (hc : c.state ≠ .connecting)
    (hnext : (c.step action).1.state = .connecting) : ∃ ms, ClosedFor turns ms ∧ delay ≤ ms := by
  obtain ⟨deadline, hp, hle⟩ := (Move.of_step c action).retry_of_connecting hc hnext
  obtain ⟨ms, hclosed, hms⟩ := h.closed deadline hp
  exact ⟨ms, hclosed, by omega⟩

/-! ### Runs -/

/-- What a run keeps: the state goes with the phase, the events are recorded, and the waits are long
enough. -/
theorem run_recorded (delay : Nat) (timeout : Option Nat) (actions : List Action) :
    let c := ((start delay timeout).run actions).1
    let turns := (start delay timeout).turns actions
    c.state = c.phase.state ∧ Recorded (connections turns) c ((start delay timeout).run actions).2 ∧
      Waited delay turns c := by
  refine turns_induction (P := fun turns last effects =>
    last.state = last.phase.state ∧ Recorded (connections turns) last effects ∧
      Waited delay turns last) ?_ ?_ actions
  · exact ⟨rfl, ⟨by simp [connections, start], rfl⟩, ⟨rfl, nofun⟩⟩
  · rintro turns last effects action ⟨hs, hrecorded, hwaited⟩
    rw [connections_concat]
    exact ⟨(Move.of_step last action).state_eq hs, hrecorded.step hs action,
      hwaited.step hs action⟩

theorem step_refuse_snd (c : Channel) : (c.step .refuse).2 = [] := by
  cases hphase : c.phase <;> simp [Channel.step, hphase]

/-- Every run follows the life of its connections: each of them begins with `connected`, passes on
what its frames come to, and ends with `disconnected`; the state moves accordingly, an attempt waits
for the delay after the one before it, and a task that has stopped shows nothing any more. -/
theorem run_lifecycle (delay : Nat) (timeout : Option Nat) (actions : List Action) :
    Lifecycle delay ((start delay timeout).turns actions) ((start delay timeout).run actions).1
      ((start delay timeout).run actions).2 := by
  obtain ⟨hs, hrecorded, hwaited⟩ := run_recorded delay timeout actions
  obtain ⟨halternates, hbegins⟩ :=
    alternates_events (connections ((start delay timeout).turns actions))
  rw [← hrecorded.events] at halternates hbegins
  refine ⟨hrecorded.events, hrecorded.open_iff, halternates, hbegins, step_refuse_snd _, ?_, ?_, ?_⟩
  · intro action
    exact (Move.of_step _ action).leads hs
  · intro action hc hnext
    exact hwaited.closedFor hc hnext
  · intro hstopped more
    obtain ⟨hphase, hstate, hshown⟩ := run_of_stopped hstopped more
    refine ⟨hphase, ?_, hshown⟩
    rw [hstate, hs, hstopped]
    rfl

end Channel

end Sightline
