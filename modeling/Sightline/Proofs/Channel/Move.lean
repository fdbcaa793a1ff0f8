import Mathlib.Data.List.Induction
import Sightline.Channel.Step

/-!
# Moves of the channel

`Routed` and `Move` list everything that routing a frame and one step of the channel can do, guards
included; `Routed.of_route` and `Move.of_step` say that there is nothing else. What every move keeps
holds after every run: `run_induction` is the only induction over runs that the theory of the
channel needs.
-/

namespace Sightline.Channel

/-! ### Routing -/

/-- What a frame can come to. -/
inductive Routed (c : Channel) (text : String) : Option ChannelEvent → Prop
  | malformed {fault : FrameFault} (hp : Message.parse text = .error fault) : Routed c text none
  | notification {message : Message} (hp : Message.parse text = .ok message)
      (ht : message.token? = none) : Routed c text (some (.notification message))
  | response {message : Message} {token : String} {kind : RequestKind} {id : RequestId}
      (hp : Message.parse text = .ok message) (ht : message.token? = some token)
      (hs : c.slots.withToken? c.order c.requestTimeout c.now token = some (kind, id)) :
      Routed c text (some (.response kind id message))
  | unmatched {message : Message} {token : String} (hp : Message.parse text = .ok message)
      (ht : message.token? = some token)
      (hs : c.slots.withToken? c.order c.requestTimeout c.now token = none) : Routed c text none

theorem Routed.of_route (c : Channel) (text : String) : Routed c text (c.route text) := by
  rw [route]
  split
  · next hp => exact .malformed hp
  · next message hp =>
    split
    · next ht => exact .notification hp ht
    · next token ht =>
      split
      · next kind id hs => exact .response hp ht hs
      · next hs => exact .unmatched hp ht hs

/-! ### Steps -/

/-- An action of a caller, of the clock or of the table of slots: it takes place wherever the task
stands. -/
def Action.isCall : Action → Bool
  | .send _ _ | .cancel _ | .elapse _ | .shutdown | .reorder _ => true
  | _ => false

/-- What one action does to a channel, with the effects that it shows. -/
inductive Move (c : Channel) : Action → Channel → List Effect → Prop
  | send (id : RequestId) (request : Request) :
      Move c (.send id request) (c.send id request) []
  | cancel (kind : RequestKind) : Move c (.cancel kind) (c.cancel kind) []
  | elapse (ms : Nat) : Move c (.elapse ms) { c with now := c.now + ms } []
  | shutdown : Move c .shutdown c.shutdown []
  | reorder (order : Slots.Order) : Move c (.reorder order) { c with order := order } []
  | connect (h : c.phase = .connecting) :
      Move c .connect
        { c with state := .open, outbound := some c.queue, queue := [], phase := .serving }
        [.emit .connected]
  | refuse (h : c.phase = .connecting) : Move c .refuse c.await []
  | receive {text : String} {found : Option ChannelEvent} (h : c.phase = .serving)
      (hr : Routed c text found) : Move c (.receive text) c (found.toList.map .emit)
  | beginWrite {frame : String} {rest : List String} (h : c.phase = .serving)
      (ho : c.outbound = some (frame :: rest)) :
      Move c .beginWrite { c with phase := .writing } []
  | written {frame : String} {rest : List String} (h : c.phase = .writing)
      (ho : c.outbound = some (frame :: rest)) :
      Move c (.endWrite true) { c with outbound := some rest, phase := .serving } [.write frame]
  | failed {frame : String} {rest : List String} (h : c.phase = .writing)
      (ho : c.outbound = some (frame :: rest)) :
      Move c (.endWrite false)
        { c with outbound := some rest, phase := .leaving (some frame) } []
  | lose (h : c.phase = .serving) : Move c .lose { c with phase := .leaving none } []
  | detach {failed : Option String} (h : c.phase = .leaving failed) :
      Move c .detach
        { c with queue := failed.toList ++ c.outbound.getD [] ++ c.queue, outbound := none }.await
        [.emit .disconnected]
  | retry {deadline : Nat} (h : c.phase = .waiting deadline) (hd : deadline ≤ c.now) :
      Move c .retry { c with state := .connecting, phase := .connecting } []
  | stop (h : c.phase = .connecting ∨ ∃ deadline, c.phase = .waiting deadline)
      (hs : c.isShutDown = true) :
      Move c .stop { c with state := .closedRetrying, outbound := none, phase := .stopped } []
  /-- An action that does not fit where the task stands, or finds nothing to do. -/
  | idle {action : Action} (h : action.isCall = false) : Move c action c []

/-- Every step is a move. -/
theorem Move.of_step (c : Channel) (action : Action) :
    Move c action (c.step action).1 (c.step action).2 := by
  cases action with
  | send id request => exact .send id request
  | cancel kind => exact .cancel kind
  | elapse ms => exact .elapse ms
  | shutdown => exact .shutdown
  | reorder order => exact .reorder order
  | connect =>
    cases h : c.phase <;> simp only [step, h]
    case connecting => exact .connect h
    all_goals exact .idle rfl
  | refuse =>
    cases h : c.phase <;> simp only [step, h]
    case connecting => exact .refuse h
    all_goals exact .idle rfl
  | receive text =>
    cases h : c.phase <;> simp only [step, h]
    case serving => exact .receive h (.of_route c text)
    all_goals exact .idle rfl
  | beginWrite =>
    cases h : c.phase <;> simp only [step, h]
    case serving =>
      split
      · next ho => exact .beginWrite h ho
      · exact .idle rfl
    all_goals exact .idle rfl
  | endWrite accepted =>
    cases h : c.phase <;> simp only [step, h]
    case writing =>
      split
      · next ho =>
        cases accepted
        · exact .failed h ho
        · exact .written h ho
      · exact .idle rfl
    all_goals exact .idle rfl
  | lose =>
    cases h : c.phase <;> simp only [step, h]
    case serving => exact .lose h
    all_goals exact .idle rfl
  | detach =>
    cases h : c.phase <;> simp only [step, h]
    case leaving failed => exact .detach h
    all_goals exact .idle rfl
  | retry =>
    cases h : c.phase <;> simp only [step, h]
    case waiting deadline =>
      split
      · next hd => exact .retry h hd
      · exact .idle rfl
    all_goals exact .idle rfl
  | stop =>
    cases h : c.phase <;> simp only [step, h]
    case connecting =>
      split
      · next hs => exact .stop (.inl h) hs
      · exact .idle rfl
    case waiting deadline =>
      split
      · next hs => exact .stop (.inr ⟨deadline, h⟩) hs
      · exact .idle rfl
    all_goals exact .idle rfl

/-! ### Runs -/

theorem run_append (c : Channel) (first second : List Action) :
    c.run (first ++ second) =
      (((c.run first).1.run second).1, (c.run first).2 ++ ((c.run first).1.run second).2) := by
  induction first generalizing c with
  | nil => simp
  | cons action rest ih => simp only [List.cons_append, run_cons, ih, List.append_assoc]

theorem run_concat (c : Channel) (actions : List Action) (action : Action) :
    c.run (actions ++ [action]) =
      (((c.run actions).1.step action).1,
        (c.run actions).2 ++ ((c.run actions).1.step action).2) := by
  simp [run_append, run_cons]

/-- What holds of the empty run, and is kept when a run goes on by one move, holds of every run. -/
theorem run_induction {c : Channel} {P : List Action → Channel → List Effect → Prop}
    (start : P [] c [])
    (move : ∀ {actions action last next effects shown}, P actions last effects →
      Move last action next shown → P (actions ++ [action]) next (effects ++ shown))
    (actions : List Action) : P actions (c.run actions).1 (c.run actions).2 := by
  induction actions using List.reverseRecOn with
  | nil => exact start
  | append_singleton actions action ih =>
    rw [run_concat]
    exact move ih (Move.of_step _ action)

/-- The turns of a run: each action together with the channel that it meets. -/
def turns (c : Channel) : List Action → List (Channel × Action)
  | [] => []
  | action :: rest => (c, action) :: (c.step action).1.turns rest

theorem turns_concat (c : Channel) (actions : List Action) (action : Action) :
    c.turns (actions ++ [action]) = c.turns actions ++ [((c.run actions).1, action)] := by
  induction actions generalizing c with
  | nil => rfl
  | cons first rest ih => simp only [List.cons_append, turns, run_cons, ih]

/-- The induction over runs for what is read off the turns. -/
theorem turns_induction {c : Channel}
    {P : List (Channel × Action) → Channel → List Effect → Prop} (start : P [] c [])
    (step : ∀ {turns last effects} (action : Action), P turns last effects →
      P (turns ++ [(last, action)]) (last.step action).1 (effects ++ (last.step action).2))
    (actions : List Action) : P (c.turns actions) (c.run actions).1 (c.run actions).2 := by
  induction actions using List.reverseRecOn with
  | nil => exact start
  | append_singleton actions action ih =>
    rw [run_concat, turns_concat]
    exact step action ih

end Sightline.Channel
