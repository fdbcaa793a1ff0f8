import Sightline.Channel.Backend
import Sightline.Session.Step

/-!
# A session together with its backend

The session is driven on a virtual clock: the background task of its channel runs until it waits,
and then all pending events are handled.
-/

namespace Sightline

/-- A session and the other side of its channel. -/
structure Planner where
  session : Session
  backend : Backend
  /-- Handling an event has failed. -/
  hasFailed : Bool

namespace Planner

/-- A new session with a backend. -/
def start (session : Session) (backend : Backend) : Planner := ⟨session, backend, false⟩

/-- Lets the background task run until it waits; its events become pending. -/
def settleChannel (p : Planner) : Planner :=
  let (network, events) := Network.settle ⟨p.session.channel, p.backend⟩
  { p with
    session := { p.session with
      channel := network.channel
      pending := p.session.pending ++ events }
    backend := network.backend }

/-- Handles all pending events. -/
def handleAll (p : Planner) : Planner × List SessionEvent :=
  let (session, events) := p.session.processAll
  let fails := p.session.pending.any ChannelEvent.overflows
  ({ p with session := session, hasFailed := p.hasFailed || fails }, events)

/-- Lets the background task run until it waits, and handles all events. -/
def settle (p : Planner) : Planner × List SessionEvent := p.settleChannel.handleAll

/-- Moves the clock. -/
def elapse (p : Planner) (ms : Nat) : Planner :=
  { p with session := p.session.channelStep (.elapse ms) }

/-- Asks the channel to stop. -/
def shutdown (p : Planner) : Planner :=
  { p with session := p.session.channelStep .shutdown }

/-- Handles events while the clock moves on by `ms`, waking the background task at each of its
times on the way, at most `fuel` of them. Where the channel has ended, no time passes. At the end
the loop and the stop are both due. They take turns in coming first, one turn each time that events
wake the loop. If the loop comes first, the background task still wakes before the stop, but what it
does is no longer handled. -/
def runFor : Nat → Nat → Bool → Planner → Planner × List SessionEvent
  | 0, ms, _, p => (p.elapse ms, [])
  | fuel + 1, ms, stopFirst, p =>
    let arrived := p.settleChannel
    let stopFirst := stopFirst ^^ (p.session.pending.length < arrived.session.pending.length)
    let (p, events) := arrived.handleAll
    match p.session.processNext with
    | .ended => (p, events)
    | _ =>
      match Network.untilWake? ⟨p.session.channel, p.backend⟩ with
      | some wait =>
        if wait < ms then
          let (last, more) := runFor fuel (ms - wait) stopFirst (p.elapse wait)
          (last, events ++ more)
        else if wait = ms ∧ !stopFirst then ((p.elapse ms).settleChannel, events)
        else (p.elapse ms, events)
      | none => (p.elapse ms, events)

/-- Handles events for `ms` milliseconds, or until the channel has ended, and then stops the
channel. With no time at all it is stopped at once. -/
def run (p : Planner) (ms : Nat) : Planner × List SessionEvent :=
  let (p, events) := if ms = 0 then (p, []) else runFor (ms + 1) ms true p
  (p.shutdown, events)

end Planner

end Sightline
