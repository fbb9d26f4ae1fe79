/-!
# Errors of the other side

What a daemon, a socket or a remote terminal can answer instead of a result.
The kinds that matter are told apart; the text is passed on as it came.
-/

namespace ContainerFleet

/-- The kinds of failure that a peer reports. -/
inductive PeerError.Kind where
  | failure
  | badValue
  | system
  | connection
  | connectionReset
  | timeout
  | request
  | daemon
  | daemonReply
  | notFound
  | streamParse
  deriving DecidableEq, Repr

/-- Failures of the system below: of connections, of requests over them, and
of the daemon's own replies, which are requests that failed. -/
def PeerError.Kind.isSystem : PeerError.Kind → Bool
  | .system | .connection | .connectionReset | .timeout | .request => true
  | .daemonReply | .notFound => true
  | .failure | .badValue | .daemon | .streamParse => false

/-- Failures in the course of an exchange, among them a stream that could not
be read. -/
def PeerError.Kind.isCourse : PeerError.Kind → Bool
  | .failure | .streamParse => true
  | _ => false

/-- A failure that a peer reported. -/
structure PeerError where
  kind : PeerError.Kind
  message : String
  deriving DecidableEq, Repr

end ContainerFleet
