import ContainerFleet.Fleet
import ContainerFleet.Terminal.Frame

/-!
# Terminal sessions

A shell that runs in a container, joined to a remote terminal.  One relay
takes the shell's output to the remote side, the other takes frames from the
remote side to the shell, or changes the size of the terminal.  When either
ends, both sides are closed and the session is over.
-/

namespace ContainerFleet
namespace Terminal

open Daemon

/-- The states of a session. -/
inductive State where
  | created
  | attached
  | streaming
  | resizing
  | closed
  deriving DecidableEq, Repr

def State.name : State → String
  | .created => "created"
  | .attached => "attached"
  | .streaming => "streaming"
  | .resizing => "resizing"
  | .closed => "closed"

/-- A command that runs in a container. -/
structure Execution where
  id : String
  host : String
  containerId : String
  deriving DecidableEq, Repr

/-- What a session does to its two sides; `arrived` says whether it got there. -/
inductive Effect where
  | sendText (text : String) (arrived : Bool)
  | sendOctets (octets : List UInt8) (arrived : Bool)
  | closeRemote
  | writeInput (octets : List UInt8) (arrived : Bool)
  deriving DecidableEq, Repr

/-- What happens at the two sides of a session. -/
inductive Event where
  /-- A frame from the remote side, which is read with so many levels. -/
  | remoteFrame (frame : Frame) (levels : Nat := Json.Reader.usualLevels)
  /-- The remote side has closed or cannot be received from. -/
  | remoteEnded
  /-- Output of the shell. -/
  | output (octets : List UInt8)
  /-- The shell's output has ended or cannot be read. -/
  | outputEnded
  /-- From now on the shell takes no input. -/
  | inputFails
  /-- From now on nothing can be sent to the remote side. -/
  | sendingFails
  deriving DecidableEq, Repr

/-- A session, with the states it went through. -/
structure Session where
  execution : Option Execution
  history : List State
  fault : Option Fault
  inputFails : Bool
  sendingFails : Bool

namespace Session

/-- A session of which nothing exists yet. -/
def start : Session := ⟨none, [], none, false, false⟩

def enter (session : Session) (state : State) : Session :=
  { session with history := session.history ++ [state] }

/-- The state entered last. -/
def state (session : Session) : Option State :=
  session.history.getLast?

def isClosed (session : Session) : Bool :=
  session.state == some .closed

/-- The preferred shell, or else the one that is always there. -/
def shell : List String :=
  ["/bin/sh", "-c", "(test -x /bin/bash && exec /bin/bash) || exec /bin/sh"]

/-- What stands before the reason when a session cannot be opened. -/
def errorLead : String := "Error creating terminal session: "

/-- The most octets that are passed on at once. -/
def chunkSize : Nat := 32768

variable {σ : Type} (peers : Peers σ)

/-- Run one of the two opening steps; what fails in it is named for the step. -/
def during {α : Type} (step : SessionStep) (action : Action σ α) :
    Action σ (Except Fault α) := do
  return (← attempt action).mapError fun fault => .session step fault.message

/-- The execution that an id stands for; only text can be an id. -/
def executionOf (host : Host) (containerId : String) : Json → Except Fault Execution
  | .text id => .ok ⟨id, host.name, containerId⟩
  | _ => .error (.invalid [⟨[.key "exec_id"], .notText⟩])

/-- Create the shell and attach to it, or say in which state that failed. -/
def prepare (host : Host) (containerId : String) :
    Action σ (Session × Except Fault Unit) := do
  match ← during .create (createExec peers host containerId shell) with
  | .error fault => return (start, .error fault)
  | .ok id =>
    match executionOf host containerId id with
    | .error fault => return (start, .error fault)
    | .ok execution =>
      let created := { start with execution := some execution }.enter .created
      match ← during .attach (attachExec peers host execution.id) with
      | .error fault => return (created, .error fault)
      | .ok () => return (created.enter .attached, .ok ())

/-- Open a session.  If that fails the remote side is told why and closed. -/
def openOn (fleet : Fleet) (hostName containerId : String) (textArrives : Bool) :
    Action σ (Session × List Effect) := do
  let (session, outcome) ← match fleet.host hostName with
    | .ok host => prepare peers host containerId
    | .error fault => pure (start, .error fault)
  match outcome with
  | .ok () => return (session.enter .streaming, [])
  | .error fault =>
    return ({ session with fault := some fault }.enter .closed,
      [.sendText (errorLead ++ fault.message) textArrives, .closeRemote])

/-- The octets in pieces of at most `chunkSize`. -/
def chunks (octets : List UInt8) : List (List UInt8) :=
  if octets.isEmpty then []
  else octets.take chunkSize :: chunks (octets.drop chunkSize)
  termination_by octets.length
  decreasing_by
    rename_i notEmpty
    have positive : 0 < octets.length := by
      cases octets with
      | nil => simp at notEmpty
      | cons octet rest => simp
    simp only [List.length_drop, chunkSize]
    omega

/-- What a relay did, and whether it goes on. -/
structure Relayed where
  session : Session
  effects : List Effect
  goesOn : Bool

/-- Pass pieces of output on to the remote side, up to the first that does not
arrive. -/
def sendChunks (session : Session) (pieces : List (List UInt8)) : Relayed :=
  if session.sendingFails then
    ⟨session, (pieces.take 1).map fun piece => .sendOctets piece false, pieces.isEmpty⟩
  else ⟨session, pieces.map fun piece => .sendOctets piece true, true⟩

/-- Give octets to the shell as input. -/
def writeInput (session : Session) (octets : List UInt8) : Relayed :=
  ⟨session, [.writeInput octets (!session.inputFails)], !session.inputFails⟩

/-- Change the size of the terminal; that it cannot be changed is passed over. -/
def resize (session : Session) (host : Host) (wish : Resize) : Action σ Session := do
  match session.execution with
  | some execution => ignoring (resizeExec peers host execution.id wish.rows wish.columns)
  | none => pure ()
  return (session.enter .resizing).enter .streaming

/-- Take one frame from the remote side to the shell. -/
def takeFrame (session : Session) (host : Host) (frame : Frame) (levels : Nat) :
    Action σ Relayed := do
  match frame.text.map fun text => Resize.ofText text levels with
  | some (.ok (some wish)) => return ⟨← session.resize peers host wish, [], true⟩
  | some (.error _) => return ⟨session, [], false⟩
  | _ => return session.writeInput frame.payload

/-- Close both sides; the session is over. -/
def tearDown (session : Session) (host : Host) : Action σ (Session × List Effect) := do
  ignoring (closeExec peers host)
  return (session.enter .closed, [.closeRemote])

/-- What the relays do when something happens. -/
def relay (session : Session) (host : Host) : Event → Action σ Relayed
  | .remoteFrame frame levels => session.takeFrame peers host frame levels
  | .remoteEnded => return ⟨session, [], false⟩
  | .output octets => return session.sendChunks (chunks octets)
  | .outputEnded => return ⟨session, [], false⟩
  | .inputFails => return ⟨{ session with inputFails := true }, [], true⟩
  | .sendingFails => return ⟨{ session with sendingFails := true }, [], true⟩

/-- What the session does when something happens.  After it was closed it does
nothing. -/
def handle (session : Session) (fleet : Fleet) (hostName : String) (event : Event) :
    Action σ (Session × List Effect) := do
  match session.isClosed, fleet.find? hostName with
  | false, some host =>
    let relayed ← session.relay peers host event
    if relayed.goesOn then return (relayed.session, relayed.effects)
    else
      let (session, effects) ← relayed.session.tearDown peers host
      return (session, relayed.effects ++ effects)
  | _, _ => return (session, [])

/-- What the session does when several things happen one after another. -/
def handleAll (fleet : Fleet) (hostName : String) :
    Session → List Event → Action σ (Session × List Effect)
  | session, [] => return (session, [])
  | session, event :: later => do
    let (session, effects) ← session.handle peers fleet hostName event
    let (session, rest) ← handleAll fleet hostName session later
    return (session, effects ++ rest)

/-- A whole session: it is opened, things happen, and at last the remote side
closes, if the session is not over before. -/
def run (fleet : Fleet) (hostName containerId : String) (textArrives : Bool)
    (events : List Event) : Action σ (Session × List Effect) := do
  let (session, opening) ← openOn peers fleet hostName containerId textArrives
  let (session, rest) ← handleAll peers fleet hostName session (events ++ [.remoteEnded])
  return (session, opening ++ rest)

end Session
end Terminal
end ContainerFleet
