import Sightline.Session.Basic

/-!
# Steps of a session

Callers act on a session, its channel moves on, and pending events are handled, all in turns. An
action that does not fit does nothing, so every list of actions is a run.
-/

namespace Sightline.Session

/-- One step of a run. -/
inductive Action
  | updateRequest (id : RequestId) (query : LinkQuery)
  | zoom (id : RequestId) (start stop : Float)
  | setRadioHeights (tx rx : Float)
  | setFrequency (frequency : Float)
  | setZone (zone : Nat)
  | setCoverage (transmitter : String) (set : CoverageSet)
  | removeTransmitter (transmitter : String)
  | selectTransmitters (transmitters : List String)
  | requestAccessPoint (id : RequestId) (transmitter : String)
  | request (id : RequestId) (request : TypedRequest)
  | cancel (kind : RequestKind)
  /-- The channel takes a step; its events become pending. -/
  | channel (action : Channel.Action)
  /-- The oldest pending event is handled. -/
  | processNext

/-- The session and the reports of an operation. -/
def Outcome.seen {α : Type} (o : Outcome α) : Session × List SessionEvent := (o.session, o.events)

/-- The session after a step of its channel. -/
def channelStep (s : Session) (action : Channel.Action) : Session :=
  let (channel, effects) := s.channel.step action
  { s with channel := channel, pending := s.pending ++ Channel.emitted effects }

/-- One step, with the reports it makes. -/
def step (s : Session) : Action → Session × List SessionEvent
  | .updateRequest id query => Outcome.seen (s.updateRequest id query)
  | .zoom id start stop => Outcome.seen (s.zoom id start stop)
  | .setRadioHeights tx rx => Outcome.seen (s.setRadioHeights tx rx)
  | .setFrequency frequency => Outcome.seen (s.setFrequency frequency)
  | .setZone zone => Outcome.seen (s.setZone zone)
  | .setCoverage transmitter set => Outcome.seen (s.setCoverage transmitter set)
  | .removeTransmitter transmitter => Outcome.seen (s.removeTransmitter transmitter)
  | .selectTransmitters transmitters => Outcome.seen (s.selectTransmitters transmitters)
  | .requestAccessPoint id transmitter => Outcome.seen (s.requestAccessPoint id transmitter)
  | .request id request => Outcome.seen (s.request id request)
  | .cancel kind => Outcome.seen (s.cancel kind)
  | .channel action => (s.channelStep action, [])
  | .processNext =>
    match s.processNext with
    | .handled next events | .failed next events => (next, events)
    | .waits | .ended => (s, [])

/-- A run, with all the reports of its steps. -/
def run (s : Session) : List Action → Session × List SessionEvent
  | [] => (s, [])
  | action :: rest =>
    let (next, events) := s.step action
    let (last, more) := next.run rest
    (last, events ++ more)

@[simp] theorem run_nil (s : Session) : s.run [] = (s, []) := rfl

theorem run_cons (s : Session) (action : Action) (rest : List Action) :
    s.run (action :: rest) =
      (((s.step action).1.run rest).1, (s.step action).2 ++ ((s.step action).1.run rest).2) := rfl

/-- Handles all pending events, the oldest first. -/
def processAll (s : Session) : Session × List SessionEvent :=
  s.run (List.replicate s.pending.length .processNext)

end Sightline.Session
