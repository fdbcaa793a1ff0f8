import Sightline.Proofs.Channel.Dispatch
import Sightline.Proofs.Session.Move

/-!
# Stale answers

An answer is matched when its frame is received and handled later; in between its request can be
cancelled, replaced or expire. `Answered` says where a pending answer comes from. Handling does not
look at the channel again, so a stale answer takes effect like any other: nothing comes of it
exactly if nothing could come of the message anyway (`stale_iff_bringsNothing`).
-/

namespace Sightline

/-- Whether a message changes nothing over what is known of the link, and is not reported. -/
def Message.BringsNothing (l : LinkState) : Message → Prop
  | .profile (.terrain a) =>
    a.error = none ∧ a.isFull = true ∧ l.applyTerrain a = l ∧ l.analysis? = none
  | .profile (.lidar a) =>
    a.error = none ∧ a.isFull = true ∧ l.applyLidar a = l ∧ l.analysis? = none
  | .profile (.link a) => a.error = none ∧
    ∀ distance, a.distance = some distance → l.applyDistance distance = l ∧ l.analysis? = none
  | .status (.standard _ error) => error = none
  | .status _ => False
  | .typed _ => False

/-- Whether an event answers a request. -/
def ChannelEvent.answers (kind : RequestKind) (id : RequestId) : ChannelEvent → Bool
  | .response k i _ => k = kind ∧ i = id
  | _ => false

theorem ChannelEvent.eq_of_answers {kind : RequestKind} {id : RequestId} {event : ChannelEvent}
    (h : event.answers kind id = true) : ∃ message, event = .response kind id message := by
  cases event with
  | response k i message =>
    obtain ⟨rfl, rfl⟩ : k = kind ∧ i = id := by simpa [answers] using h
    exact ⟨message, rfl⟩
  | _ => cases h

namespace Session

variable {s : Session} {kind : RequestKind} {id : RequestId} {message : Message}

/-! ### Handling an answer -/

theorem recompute_eq_nil_iff (s : Session) : s.recompute = [] ↔ s.link.analysis? = none := by
  rw [recompute]
  split
  · next h => simp [h]
  · next h => simp [h]
  · next h => simp [h]

/-- Taking over what is known anyway. -/
theorem withLink_recompute_eq_iff (s : Session) (link : LinkState) :
    { s with link := link } = s ∧ recompute { s with link := link } = [] ↔
      link = s.link ∧ s.link.analysis? = none := by
  rw [recompute_eq_nil_iff]
  constructor
  · rintro ⟨hs, ha⟩
    have hlink : link = s.link := congrArg Session.link hs
    exact ⟨hlink, hlink ▸ ha⟩
  · rintro ⟨rfl, ha⟩
    exact ⟨rfl, ha⟩

/-- Nothing comes of an answer exactly if the message brings nothing. -/
theorem handle_response_eq_iff :
    s.handle (.response kind id message) = (s, []) ↔ message.BringsNothing s.link := by
  cases message with
  | typed answer => simp [handle, Message.BringsNothing]
  | status status =>
    cases status with
    | standard uuid error =>
      cases error <;> simp [handle, handleStatus, Message.BringsNothing]
    | apStatus uuid status features =>
      dsimp only [handle, handleStatus]
      split <;> simp [Message.BringsNothing]
    | _ => simp [handle, handleStatus, Message.BringsNothing]
  | profile profile =>
    show s.handleProfile profile = (s, []) ↔ _
    rw [handleProfile.eq_def]
    cases he : profile.error with
    | some reason =>
      cases profile <;> simp_all [Message.BringsNothing, ProfileMessage.error]
    | none =>
      cases profile with
      | terrain a =>
        have he' : a.error = none := he
        cases hf : a.isFull with
        | true => simp [hf, he', Message.BringsNothing, withLink_recompute_eq_iff]
        | false => simp [hf, Message.BringsNothing]
      | lidar a =>
        have he' : a.error = none := he
        cases hf : a.isFull with
        | true => simp [hf, he', Message.BringsNothing, withLink_recompute_eq_iff]
        | false => simp [hf, Message.BringsNothing]
      | link a =>
        have he' : a.error = none := he
        cases hd : a.distance with
        | some distance => simp [hd, he', Message.BringsNothing, withLink_recompute_eq_iff]
        | none => simp [hd, he', Message.BringsNothing]

/-! ### Where pending answers come from -/

/-- A frame was passed on as the answer to a request of some age, which was live then; `later` is
what the channel was asked since. -/
def Answered (timeout : Option Nat) (asked : List Channel.Action) (kind : RequestKind)
    (id : RequestId) (message : Message) (age : Nat) (later : List Channel.Action) : Prop :=
  ∃ earlier text request, asked = earlier ++ .receive text :: later ∧
    Message.parse text = .ok message ∧ message.token? = some (request.encode id).token ∧
    Channel.Outstanding earlier kind id request age ∧
    ∀ limit, timeout = some limit → age ≤ limit

variable {config : SessionConfig} {delay : Nat} {timeout : Option Nat}
  {asked later : List Channel.Action} {age : Nat}

theorem Answered.append (h : Answered timeout asked kind id message age later)
    (more : List Channel.Action) :
    Answered timeout (asked ++ more) kind id message age (later ++ more) := by
  obtain ⟨earlier, text, request, rfl, h⟩ := h
  exact ⟨earlier, text, request, by simp, h⟩

/-- An answer that the channel passes on answers a request that is live just then. -/
theorem answered_of_mem_emitted {action : Channel.Action}
    (h : .response kind id message ∈
      Channel.emitted (((Channel.start delay timeout).run asked).1.step action).2) :
    ∃ age, Answered timeout (asked ++ [action]) kind id message age [] := by
  obtain ⟨text, rfl, hr⟩ := (Channel.Move.of_step _ action).routed_of_mem_emitted h
  cases hr with
  | response hp ht hs =>
    obtain ⟨request, ⟨age, ho, hlimit⟩, rfl⟩ := Channel.exists_live_of_matched hs
    exact ⟨age, asked, text, request, rfl, hp, ht, ho, hlimit⟩

/-- A request whose answer was passed on is still live, unless its kind was touched since or it has
grown too old. -/
theorem Answered.touched_or_expired (h : Answered timeout asked kind id message age later)
    (hs : ((Channel.start delay timeout).run asked).1.activeRequest? kind ≠ some id) :
    (∃ action ∈ later, action.touches kind = true) ∨
      ∃ limit, timeout = some limit ∧ limit < age + Channel.elapsed later := by
  obtain ⟨earlier, text, request, rfl, -, -, ho, -⟩ := h
  by_contra hnot
  rw [not_or] at hnot
  obtain ⟨huntouched, hyoung⟩ := hnot
  apply hs
  rw [Channel.activeRequest?_eq_some_iff]
  refine ⟨request, _, ho.append ?_, ?_⟩
  · intro action ha
    rcases List.mem_cons.1 ha with rfl | ha
    · rfl
    · exact Bool.eq_false_iff.2 fun ht => huntouched ⟨action, ha, ht⟩
  · intro limit hlimit
    have hle : ¬ limit < age + Channel.elapsed later := fun hlt => hyoung ⟨limit, hlimit, hlt⟩
    simp only [Channel.elapsed, Channel.Action.duration]
    omega

/-- Events become pending when the channel emits them. -/
theorem Move.mem_pending {next : Session} {action : Action} {events : List SessionEvent}
    {more : List Channel.Action} {event : ChannelEvent} (hm : Move s action next events more)
    (h : event ∈ next.pending) :
    event ∈ s.pending ∨
      ∃ action, more = [action] ∧ event ∈ Channel.emitted (s.channel.step action).2 := by
  cases hm with
  | channel action =>
    rcases List.mem_append.1 h with h | h
    · exact .inl h
    · exact .inr ⟨action, rfl, h⟩
  | handled hp =>
    rw [(handled_handle _ _).pending] at h
    rw [hp]
    exact .inl (List.mem_cons_of_mem _ h)
  | _ => exact .inl h

theorem answered_of_mem_pending (actions : List Action)
    (h : .response kind id message ∈
      ((start config (.start delay timeout)).run actions).1.pending) :
    ∃ age later, Answered timeout ((start config (.start delay timeout)).history actions)
      kind id message age later := by
  revert kind id message
  refine (run_induction (P := fun _ asked last _ =>
    last.channel = ((Channel.start delay timeout).run asked).1 ∧
      ∀ {kind id message}, .response kind id message ∈ last.pending →
        ∃ age later, Answered timeout asked kind id message age later) ?_ ?_ actions).2
  · exact ⟨rfl, fun h => by cases h⟩
  · rintro actions asked action last next events shown more ⟨hc, ih⟩ hm
    refine ⟨by rw [hm.channel_eq, hc, Channel.run_append], ?_⟩
    intro kind id message h
    rcases hm.mem_pending h with h | ⟨action, rfl, h⟩
    · obtain ⟨age, later, ha⟩ := ih h
      exact ⟨age, _, ha.append more⟩
    · rw [hc] at h
      obtain ⟨age, ha⟩ := answered_of_mem_emitted h
      exact ⟨age, [], ha⟩

/-! ### Stale answers -/

/-- An event that overflows is reported before it fails. -/
theorem handle_snd_ne_nil_of_overflows {event : ChannelEvent} (h : event.overflows = true) :
    (s.handle event).2 ≠ [] := by
  unfold ChannelEvent.overflows at h
  split at h
  · dsimp only [handle, handleStatus]
    split <;> exact List.cons_ne_nil _ _
  · cases h

theorem processNext_eq_iff {event : ChannelEvent} {rest : List ChannelEvent}
    (hp : s.pending = event :: rest) :
    s.processNext = .handled { s with pending := rest } [] ↔
      handle { s with pending := rest } event = ({ s with pending := rest }, []) := by
  simp only [processNext, hp, receive]
  by_cases hoverflows : event.overflows = true
  · rw [if_pos hoverflows]
    refine iff_of_false (fun h => by cases h) fun h => ?_
    exact handle_snd_ne_nil_of_overflows hoverflows (congrArg Prod.snd h)
  · rw [if_neg hoverflows, Receipt.handled.injEq]
    exact (Prod.ext_iff (y := ({ s with pending := rest }, []))).symm

theorem step_processNext {next : Session} {events : List SessionEvent}
    (h : s.processNext = .handled next events) : s.step .processNext = (next, events) := by
  simp only [step, h]

/-- A pending answer whose request is not the live one of its kind was received while the request
was live; since then the kind was touched or the request has expired. It is handled all the same:
it changes the session or is reported, except if the message brings nothing. -/
theorem stale_answer_ignored_iff (config : SessionConfig) (delay : Nat) (timeout : Option Nat)
    (actions : List Action) (kind : RequestKind) (id : RequestId) (message : Message)
    (rest : List ChannelEvent) :
    let s := ((start config (.start delay timeout)).run actions).1
    let asked := (start config (.start delay timeout)).history actions
    s.pending = .response kind id message :: rest → s.channel.activeRequest? kind ≠ some id →
      (∃ age later, Answered timeout asked kind id message age later ∧
        ((∃ action ∈ later, action.touches kind = true) ∨
          ∃ limit, timeout = some limit ∧ limit < age + Channel.elapsed later)) ∧
      (s.processNext = .handled { s with pending := rest } [] ↔ message.BringsNothing s.link) := by
  intro s asked hp hs
  constructor
  · have hmem : .response kind id message ∈ s.pending := hp ▸ List.mem_cons_self
    obtain ⟨age, later, ha⟩ := answered_of_mem_pending actions hmem
    have hc : s.channel = ((Channel.start delay timeout).run asked).1 := run_channel _ actions
    rw [hc] at hs
    exact ⟨age, later, ha, ha.touched_or_expired hs⟩
  · rw [processNext_eq_iff hp, handle_response_eq_iff]

/-- The terrain of the sample link is received, and the link is cancelled before it is handled. -/
def cancelledInBetween : List Action :=
  [.channel .connect, .processNext, .updateRequest ⟨1⟩ sampleQuery,
    .channel (.receive sampleTerrain), .cancel .link]

theorem exists_pending_cancelledInBetween : ∃ message rest,
    (sample.run cancelledInBetween).1.pending = .response .link ⟨1⟩ message :: rest := by
  have h : (sample.run cancelledInBetween).1.pending.head?.any (·.answers .link ⟨1⟩) = true := by
    decide +kernel
  cases hp : (sample.run cancelledInBetween).1.pending with
  | nil =>
    rw [hp] at h
    cases h
  | cons event rest =>
    rw [hp] at h
    obtain ⟨message, rfl⟩ := ChannelEvent.eq_of_answers h
    exact ⟨message, rest, rfl⟩

theorem stale_answer_ignored_iff_cancelledInBetween :
    let s := (sample.run cancelledInBetween).1
    ∃ message rest, s.pending = .response .link ⟨1⟩ message :: rest ∧
      s.channel.activeRequest? .link ≠ some ⟨1⟩ ∧
      (s.processNext = .handled { s with pending := rest } [] ↔ message.BringsNothing s.link) := by
  intro s
  obtain ⟨message, rest, hp⟩ := exists_pending_cancelledInBetween
  have hs : s.channel.activeRequest? .link ≠ some ⟨1⟩ := by decide +kernel
  refine ⟨message, rest, hp, hs, ?_⟩
  exact (stale_answer_ignored_iff .initial 1000 none cancelledInBetween .link ⟨1⟩ message rest
    hp hs).2

/-- The terrain that comes too late is taken over. -/
theorem stale_answer_not_ignored :
    ¬ ∀ (config : SessionConfig) (delay : Nat) (timeout : Option Nat) (actions : List Action)
      (kind : RequestKind) (id : RequestId) (message : Message) (rest : List ChannelEvent),
      let s := ((start config (.start delay timeout)).run actions).1
      s.pending = .response kind id message :: rest → s.channel.activeRequest? kind ≠ some id →
        s.processNext = .handled { s with pending := rest } [] := by
  intro h
  let s := (sample.run cancelledInBetween).1
  obtain ⟨message, rest, hp⟩ := exists_pending_cancelledInBetween
  have hs : s.channel.activeRequest? .link ≠ some ⟨1⟩ := by decide +kernel
  have hnext : s.processNext = .handled { s with pending := rest } [] :=
    h .initial 1000 none cancelledInBetween .link ⟨1⟩ message rest hp hs
  have hbefore : s.link.elevation = none := by decide +kernel
  have hafter : (s.step .processNext).1.link.elevation ≠ none := by decide +kernel
  rw [step_processNext hnext] at hafter
  exact hafter hbefore

end Session

end Sightline
