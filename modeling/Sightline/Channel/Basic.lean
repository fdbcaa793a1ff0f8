import Sightline.Channel.Connection
import Sightline.Channel.Slots
import Sightline.Message.Basic
import Sightline.Request.Basic

/-!
# The request channel

One connection carries all requests. Callers share the connection state, the slots, the queue of
frames that wait for a connection, and the writer of the open connection; a background task
connects, serves the connection and reconnects. Time is a number of milliseconds.
-/

namespace Sightline

/-- What the channel tells its consumer. -/
inductive ChannelEvent
  | connected
  | disconnected
  /-- An answer to the live request of a kind. -/
  | response (kind : RequestKind) (id : RequestId) (message : Message)
  /-- A message that answers no request. -/
  | notification (message : Message)

/-- Where the background task stands. -/
inductive TaskPhase
  /-- A connect attempt is under way. -/
  | connecting
  /-- The connection is served, and no frame is being written. -/
  | serving
  /-- The first frame of the writer is being written; nothing is read meanwhile. -/
  | writing
  /-- The connection is lost but still attached; perhaps the write of a frame failed. -/
  | leaving (failed : Option String)
  /-- The next attempt waits for its time. -/
  | waiting (deadline : Nat)
  | stopped
  deriving DecidableEq, Repr

/-- A request channel. -/
structure Channel where
  /-- Wait before each further connect attempt. -/
  reconnectDelay : Nat
  /-- Age beyond which a request is no longer live. -/
  requestTimeout : Option Nat
  now : Nat
  state : ConnectionState
  slots : Slots
  /-- The order in which the slots are searched at present. -/
  order : Slots.Order
  /-- Frames that wait for a connection, the oldest first. -/
  queue : List String
  /-- Frames handed to the writer of the connection and not yet written; none without a writer. -/
  outbound : Option (List String)
  phase : TaskPhase
  /-- The stop has been asked for. -/
  isShutDown : Bool

namespace Channel

/-- A new channel, which begins to connect. -/
def start (reconnectDelay : Nat) (requestTimeout : Option Nat) : Channel where
  reconnectDelay := reconnectDelay
  requestTimeout := requestTimeout
  now := 0
  state := .connecting
  slots := .empty
  order := .listed
  queue := []
  outbound := none
  phase := .connecting
  isShutDown := false

/-! ### For callers -/

/-- Hands a frame to the writer if the connection is open, to the queue otherwise. -/
def enqueue (c : Channel) (frame : String) : Channel :=
  match c.state, c.outbound with
  | .open, some frames => { c with outbound := some (frames ++ [frame]) }
  | _, _ => { c with queue := c.queue ++ [frame] }

@[simp] theorem enqueue_phase (c : Channel) (frame : String) :
    (c.enqueue frame).phase = c.phase := by
  rw [enqueue]
  split <;> rfl

@[simp] theorem enqueue_slots (c : Channel) (frame : String) :
    (c.enqueue frame).slots = c.slots := by
  rw [enqueue]
  split <;> rfl

@[simp] theorem enqueue_state (c : Channel) (frame : String) :
    (c.enqueue frame).state = c.state := by
  rw [enqueue]
  split <;> rfl

@[simp] theorem enqueue_reconnectDelay (c : Channel) (frame : String) :
    (c.enqueue frame).reconnectDelay = c.reconnectDelay := by
  rw [enqueue]
  split <;> rfl

@[simp] theorem enqueue_now (c : Channel) (frame : String) : (c.enqueue frame).now = c.now := by
  rw [enqueue]
  split <;> rfl

@[simp] theorem enqueue_requestTimeout (c : Channel) (frame : String) :
    (c.enqueue frame).requestTimeout = c.requestTimeout := by
  rw [enqueue]
  split <;> rfl

/-- Sends a request under a fresh identifier. It replaces the live request of its kind. -/
def send (c : Channel) (id : RequestId) (request : Request) : Channel :=
  let encoded := request.encode id
  let slot : Slot := ⟨id, encoded.token, c.now⟩
  { c with slots := c.slots.set request.kind (some slot) }.enqueue encoded.frame

@[simp] theorem send_phase (c : Channel) (id : RequestId) (request : Request) :
    (c.send id request).phase = c.phase := by simp [send]

@[simp] theorem send_state (c : Channel) (id : RequestId) (request : Request) :
    (c.send id request).state = c.state := by simp [send]

@[simp] theorem send_reconnectDelay (c : Channel) (id : RequestId) (request : Request) :
    (c.send id request).reconnectDelay = c.reconnectDelay := by simp [send]

@[simp] theorem send_slots (c : Channel) (id : RequestId) (request : Request) :
    (c.send id request).slots =
      c.slots.set request.kind (some ⟨id, (request.encode id).token, c.now⟩) := by simp [send]

@[simp] theorem send_now (c : Channel) (id : RequestId) (request : Request) :
    (c.send id request).now = c.now := by simp [send]

@[simp] theorem send_requestTimeout (c : Channel) (id : RequestId) (request : Request) :
    (c.send id request).requestTimeout = c.requestTimeout := by simp [send]

/-- Makes the live request of a kind stale. The backend is not told. -/
def cancel (c : Channel) (kind : RequestKind) : Channel :=
  { c with slots := c.slots.set kind none }

@[simp] theorem cancel_slots (c : Channel) (kind : RequestKind) :
    (c.cancel kind).slots = c.slots.set kind none := rfl

/-- Asks the background task to stop. -/
def shutdown (c : Channel) : Channel := { c with isShutDown := true }

/-- How many frames wait for a connection. -/
def queuedLength (c : Channel) : Nat := c.queue.length

/-- The identifier of the live request of a kind. -/
def activeRequest? (c : Channel) (kind : RequestKind) : Option RequestId :=
  (c.slots.live? c.requestTimeout c.now kind).map (·.id)

/-- What a frame of the backend means for the consumer. A message without a token is passed on; a
token has to be that of a live request. -/
def route (c : Channel) (text : String) : Option ChannelEvent :=
  match Message.parse text with
  | .error _ => none
  | .ok message =>
    match message.token? with
    | none => some (.notification message)
    | some token =>
      match c.slots.withToken? c.order c.requestTimeout c.now token with
      | some (kind, id) => some (.response kind id message)
      | none => none

end Channel

end Sightline
