import Sightline.Channel.Step

/-!
# A backend in the same process

Stands in for the other side of the connection: it offers connections, sends frames to the client
and collects what the client writes. `Backend.next?` chooses what the background task does next,
in its order of preference: stop, read, write.
-/

namespace Sightline

/-- How the client's end of a connection takes frames. -/
inductive SinkMode
  | accepts
  | fails
  /-- A write waits until the mode changes. -/
  | stalls
  deriving DecidableEq, Repr

/-- What the client can find in its stream. -/
inductive Arrival
  | frame (text : String)
  | fault
  deriving DecidableEq, Repr

/-- One connection as the backend sees it. -/
structure Peer where
  /-- What was sent and not yet read. -/
  inbox : List Arrival
  /-- Frames of the client that were not yet collected. -/
  received : List String
  sink : SinkMode
  /-- The backend has closed the connection. -/
  isClosed : Bool
  /-- The client has dropped the connection. -/
  isDropped : Bool
  deriving DecidableEq, Repr

/-- What the next connect attempt meets. -/
inductive Offer
  | peer (index : Nat)
  | refusal
  deriving DecidableEq, Repr

/-- How a backend closes a connection. -/
inductive Transport
  /-- The whole connection is dropped: frames that were not collected are lost, and later writes
  fail. -/
  | memory
  /-- Only the stream ends. -/
  | scripted
  deriving DecidableEq, Repr

/-- The other side of a channel. -/
structure Backend where
  transport : Transport
  peers : List Peer
  /-- What later connect attempts meet, the next one first. -/
  offers : List Offer
  /-- Without further offers an attempt waits; it fails once the listener is gone. -/
  isListening : Bool
  /-- The connection that is being served. -/
  current : Nat
  /-- The client is gone for good. -/
  isAbandoned : Bool
  deriving DecidableEq, Repr

namespace Backend

def empty (transport : Transport) : Backend := ⟨transport, [], [], true, 0, false⟩

/-! ### What the backend does -/

/-- Offers one connection. One that nobody can take any more is dropped at once. -/
def accept (b : Backend) (sink : SinkMode) : Backend :=
  { b with
    peers := b.peers ++ [⟨[], [], sink, false, b.isAbandoned⟩]
    offers := if b.isAbandoned then b.offers else b.offers ++ [.peer b.peers.length] }

/-- Lets one connect attempt fail. -/
def refuse (b : Backend) : Backend := { b with offers := b.offers ++ [.refusal] }

/-- Stops listening. -/
def dropListener (b : Backend) : Backend := { b with isListening := false }

def modifyPeer (b : Backend) (index : Nat) (f : Peer → Peer) : Backend :=
  { b with peers := b.peers.modify index f }

/-- Whether something can be sent over a connection. -/
def canSend (b : Backend) (index : Nat) : Bool :=
  match b.peers[index]? with
  | some p => !p.isClosed && !p.isDropped
  | none => false

/-- Sends to the client, where that is possible. -/
def push (b : Backend) (index : Nat) (arrival : Arrival) : Backend :=
  if b.canSend index then b.modifyPeer index fun p => { p with inbox := p.inbox ++ [arrival] }
  else b

/-- Whether a connection exists that the backend has not closed. -/
def canClose (b : Backend) (index : Nat) : Bool := (b.peers[index]?.map (!·.isClosed)).getD false

/-- Closes a connection. -/
def close (b : Backend) (index : Nat) : Backend :=
  match b.transport with
  | .memory => b.modifyPeer index fun p =>
      { p with isClosed := true, received := [], sink := .fails }
  | .scripted => b.modifyPeer index fun p => { p with isClosed := true }

/-- Changes how a connection takes frames. -/
def setSink (b : Backend) (index : Nat) (mode : SinkMode) : Backend :=
  b.modifyPeer index fun p => { p with sink := mode }

/-- Takes the frames received by each connection. -/
def collect (b : Backend) : Backend × List (Nat × String) :=
  ({ b with peers := b.peers.map fun p => { p with received := [] } },
    (b.peers.zipIdx.map fun (p, i) => p.received.map (i, ·)).flatten)

/-! ### What the client does -/

/-- Drops the connection with an index. -/
def dropPeer (b : Backend) (index : Nat) : Backend :=
  b.modifyPeer index fun p => { p with isDropped := true }

/-- The client goes away, and with it every offer. -/
def abandon (b : Backend) : Backend :=
  let dropOffer (b : Backend) : Offer → Backend
    | .peer i => b.dropPeer i
    | .refusal => b
  { b.offers.foldl dropOffer b with offers := [], isAbandoned := true }

/-- How the current connection takes frames. -/
def sink? (b : Backend) : Option SinkMode := b.peers[b.current]?.map Peer.sink

/-- The next action of a task that serves the current connection. -/
def serve? (c : Channel) (b : Backend) : Option (Channel.Action × Backend) := do
  if c.isShutDown then return (.lose, b)
  let p ← b.peers[b.current]?
  let read (rest : List Arrival) := b.modifyPeer b.current fun p => { p with inbox := rest }
  match p.inbox with
  | .frame text :: rest => return (.receive text, read rest)
  | .fault :: rest => return (.lose, read rest)
  | [] =>
    if p.isClosed then return (.lose, b)
    else if (c.outbound.getD []).isEmpty then none
    else return (.beginWrite, b)

/-- The next action of the background task, and the backend after it; none if the task waits. -/
def next? (c : Channel) (b : Backend) : Option (Channel.Action × Backend) :=
  match c.phase with
  | .connecting =>
    if c.isShutDown then some (.stop, b.abandon)
    else match b.offers with
      | .peer i :: rest => some (.connect, { b with offers := rest, current := i })
      | .refusal :: rest => some (.refuse, { b with offers := rest })
      | [] => if b.isListening then none else some (.refuse, b)
  | .serving => b.serve? c
  | .writing =>
    match b.sink? with
    | some .accepts => some (.endWrite true, b)
    | some .fails => some (.endWrite false, b)
    | _ => none
  | .leaving _ => some (.detach, b.dropPeer b.current)
  | .waiting deadline =>
    if c.isShutDown then some (.stop, b.abandon)
    else if deadline ≤ c.now then some (.retry, b)
    else none
  | .stopped => none

/-- Notes what a step of the client shows. -/
def note (b : Backend) : Channel.Effect → Backend
  | .write frame => b.modifyPeer b.current fun p => { p with received := p.received ++ [frame] }
  | .emit _ => b

/-- A bound on the steps that the task can take without waiting: every arrival is read once, every
offer is met once, and every frame is tried at most once for each offer. -/
def patience (c : Channel) (b : Backend) : Nat :=
  let frames := c.queue.length + (c.outbound.getD []).length
  8 + (b.peers.flatMap (·.inbox)).length + 2 * frames + 6 * (b.offers.length + 1)

end Backend

/-- A channel together with its backend. -/
structure Network where
  channel : Channel
  backend : Backend

namespace Network

/-- One step of the background task, and the events of it. -/
def step? (n : Network) : Option (Network × List ChannelEvent) := do
  let (action, backend) ← n.backend.next? n.channel
  let (channel, effects) := n.channel.step action
  return (⟨channel, effects.foldl Backend.note backend⟩, Channel.emitted effects)

/-- At most `fuel` steps of the background task. -/
def settleWithin : Nat → Network → Network × List ChannelEvent
  | 0, n => (n, [])
  | fuel + 1, n =>
    match n.step? with
    | none => (n, [])
    | some (next, events) =>
      let (last, more) := settleWithin fuel next
      (last, events ++ more)

/-- Lets the background task run until it waits. -/
def settle (n : Network) : Network × List ChannelEvent :=
  settleWithin (n.backend.patience n.channel) n

/-- Moves the clock. -/
def elapse (n : Network) (ms : Nat) : Network :=
  { n with channel := (n.channel.step (.elapse ms)).1 }

/-- Milliseconds until the background task wakes, if it waits for a time. -/
def untilWake? (n : Network) : Option Nat :=
  match n.channel.phase with
  | .waiting deadline => some (deadline - n.channel.now)
  | _ => none

end Network

end Sightline
