/-!
# Connections

What callers of the channel see of its connection, and the faults of the connection below it.
-/

namespace Sightline

/-- The state of the persistent connection. -/
inductive ConnectionState
  | connecting
  | open
  | closedRetrying
  deriving DecidableEq, Repr, Inhabited

namespace ConnectionState

def all : List ConnectionState := [.connecting, .open, .closedRetrying]

def label : ConnectionState → String
  | .connecting => "connecting"
  | .open => "open"
  | .closedRetrying => "closed (retrying)"

def isOpen (s : ConnectionState) : Bool := s = .open

end ConnectionState

/-- A fault of the connection. The channel reconnects; its callers never see one. -/
inductive TransportFault
  | connect (reason : String)
  | send (reason : String)
  | receive (reason : String)
  | closed
  deriving DecidableEq, Repr

def TransportFault.message : TransportFault → String
  | .connect reason => "Connect failed: " ++ reason
  | .send reason => "Send failed: " ++ reason
  | .receive reason => "Receive failed: " ++ reason
  | .closed => "Connection closed"

end Sightline
