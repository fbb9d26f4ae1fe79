import ContainerFleet.Fault
import ContainerFleet.Terminal.Frame

/-!
# Remote sockets

A message socket to a remote terminal.  Messages are received until the
remote side disconnects; closing is done once, and not at all where the
socket is already closed on this side.
-/

namespace ContainerFleet
namespace Terminal

/-- What a socket delivers. -/
inductive Message where
  | disconnect
  | failure (error : PeerError)
  /-- Text, which must be a text document, or else octets. -/
  | content (text : Json) (octets : List UInt8)
  deriving Repr

/-- A socket: whether either side is disconnected, the messages to come, and
how closing fails, if it does. -/
structure Socket where
  remoteGone : Bool
  closed : Bool
  inbox : List Message
  closeError : Option PeerError

namespace Socket

/-- The frame that a message's content makes; text counts before octets. -/
def frameOf (text : Json) (octets : List UInt8) : Except Fault Frame :=
  match text with
  | .null => .ok (.ofOctets octets)
  | .text content => .ok (.ofText content)
  | _ => .error (.invalid [⟨[.key "text"], .notText⟩])

/-- The next frame, none once the remote side has disconnected. -/
def receive (socket : Socket) : Except Fault (Option Frame) × Socket :=
  if socket.remoteGone then (.ok none, socket)
  else
    match socket.inbox with
    | [] => (.ok none, socket)
    | .disconnect :: later => (.ok none, { socket with inbox := later, remoteGone := true })
    | .failure error :: later => (.error (.peer error), { socket with inbox := later })
    | .content text octets :: later =>
      ((frameOf text octets).map some, { socket with inbox := later })

/-- What came of closing. -/
structure Closing where
  socket : Socket
  /-- Whether the socket itself was told to close. -/
  attempted : Bool
  fault : Option Fault

/-- Close the socket.  A failure that only says that the other side was faster
is passed over. -/
def close (socket : Socket) : Closing :=
  if socket.closed then ⟨socket, false, none⟩
  else
    match socket.closeError with
    | none => ⟨{ socket with closed := true }, true, none⟩
    | some error =>
      ⟨socket, true, if error.kind.isCourse then none else some (.peer error)⟩

end Socket
end Terminal
end ContainerFleet
