import Sightline.Channel.Basic

/-!
# Steps of the channel

Callers, the background task and the world around them act on a channel in turns. Each critical
section and each write is one action, and so is a change of the order in which the slots are
searched, which nobody controls. An action that does not fit where the task stands does
nothing, so every list of actions is a run.
-/

namespace Sightline.Channel

/-- One step of a run. -/
inductive Action
  /-- A caller sends a request under a fresh identifier. -/
  | send (id : RequestId) (request : Request)
  /-- A caller cancels the live request of a kind. -/
  | cancel (kind : RequestKind)
  /-- Time passes. -/
  | elapse (ms : Nat)
  /-- A caller asks the task to stop. -/
  | shutdown
  /-- From now on the slots are searched in another order. -/
  | reorder (order : Slots.Order)
  /-- The connect attempt succeeds: the queue goes to the new writer. -/
  | connect
  /-- The connect attempt fails. -/
  | refuse
  /-- The stream of the connection yields a frame. -/
  | receive (text : String)
  /-- The task begins to write the first frame of the writer. -/
  | beginWrite
  /-- The connection takes the frame, or does not. -/
  | endWrite (accepted : Bool)
  /-- The stream ends, fails, or is given up. -/
  | lose
  /-- The task detaches the writer; what was not written goes back to the front of the queue. -/
  | detach
  /-- The wait is over and the next attempt begins. -/
  | retry
  /-- The task stops. -/
  | stop

/-- What a step shows to others. -/
inductive Effect
  | emit (event : ChannelEvent)
  /-- The connection has taken a frame. -/
  | write (frame : String)

/-- The wait before the next attempt begins. -/
def await (c : Channel) : Channel :=
  { c with state := .closedRetrying, phase := .waiting (c.now + c.reconnectDelay) }

/-- One step. -/
def step (c : Channel) (action : Action) : Channel × List Effect :=
  match action, c.phase with
  | .send id request, _ => (c.send id request, [])
  | .cancel kind, _ => (c.cancel kind, [])
  | .elapse ms, _ => ({ c with now := c.now + ms }, [])
  | .shutdown, _ => (c.shutdown, [])
  | .reorder order, _ => ({ c with order := order }, [])
  | .connect, .connecting =>
    ({ c with state := .open, outbound := some c.queue, queue := [], phase := .serving },
      [.emit .connected])
  | .refuse, .connecting => (c.await, [])
  | .receive text, .serving => (c, (c.route text).toList.map .emit)
  | .beginWrite, .serving =>
    match c.outbound with
    | some (_ :: _) => ({ c with phase := .writing }, [])
    | _ => (c, [])
  | .endWrite accepted, .writing =>
    match c.outbound with
    | some (frame :: rest) =>
      if accepted then ({ c with outbound := some rest, phase := .serving }, [.write frame])
      else ({ c with outbound := some rest, phase := .leaving (some frame) }, [])
    | _ => (c, [])
  | .lose, .serving => ({ c with phase := .leaving none }, [])
  | .detach, .leaving failed =>
    let unwritten := failed.toList ++ c.outbound.getD []
    ({ c with queue := unwritten ++ c.queue, outbound := none }.await, [.emit .disconnected])
  | .retry, .waiting deadline =>
    if deadline ≤ c.now then ({ c with state := .connecting, phase := .connecting }, [])
    else (c, [])
  | .stop, .connecting | .stop, .waiting _ =>
    if c.isShutDown then
      ({ c with state := .closedRetrying, outbound := none, phase := .stopped }, [])
    else (c, [])
  | _, _ => (c, [])

/-- A run, with all that its steps show. -/
def run (c : Channel) : List Action → Channel × List Effect
  | [] => (c, [])
  | action :: rest =>
    let (next, effects) := c.step action
    let (last, more) := next.run rest
    (last, effects ++ more)

/-- The events among effects. -/
def emitted (effects : List Effect) : List ChannelEvent :=
  effects.filterMap fun
    | .emit event => some event
    | .write _ => none

/-- The frames that the actions of a run submit. -/
def submitted (actions : List Action) : List String :=
  actions.filterMap fun
    | .send id request => some (request.encode id).frame
    | _ => none

@[simp] theorem run_nil (c : Channel) : c.run [] = (c, []) := rfl

theorem run_cons (c : Channel) (action : Action) (rest : List Action) :
    c.run (action :: rest) =
      (((c.step action).1.run rest).1, (c.step action).2 ++ ((c.step action).1.run rest).2) := rfl

end Sightline.Channel
