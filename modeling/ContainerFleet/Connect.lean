import ContainerFleet.Fleet

/-!
# Connecting a fleet

All configured hosts are connected, or none: at the first that cannot be, the
connections made before it are given up.
-/

namespace ContainerFleet
namespace Connect

open Daemon

/-- What holds for all connections. -/
structure Options where
  timeout : Int
  sshProgram : Bool
  deriving DecidableEq, Repr

/-- One minute, and the system's own ssh program. -/
def Options.default : Options := ⟨60, true⟩

/-- How a host is dialled under the options. -/
def Options.dial (options : Options) (host : Host) : Dial where
  uri := host.uri
  timeout := options.timeout
  sshProgram := if host.transport = .ssh then some options.sshProgram else none
  tls := if host.transport = .tcp then some false else none

variable {σ : Type} (peers : Peers σ)

/-- Dial a host and ask whether its daemon is there. -/
def connectHost (options : Options) (host : Host) : Action σ Unit := do
  peers.request host.uri (.connect (options.dial host))
  let _ ← ping peers host

/-- The words of the cause for which a host could not be connected. -/
def causeOf : Fault → ConnectCause
  | .peer error => .peer error
  | fault => .peer ⟨.failure, fault.message⟩

/-- Connect hosts one after another and add them to those connected. -/
def connectFrom (connect : Host → Action σ Unit) : Fleet → List Host → Action σ Fleet
  | fleet, [] => return fleet
  | fleet, host :: later =>
    match fleet.add? host with
    | none => do
      fleet.close peers
      throw (.hostUnreachable host.name host.uri .duplicateName)
    | some extended => do
      match ← attempt (connect host) with
      | .ok () => connectFrom connect extended later
      | .error fault =>
        fleet.close peers
        throw (.hostUnreachable host.name host.uri (causeOf fault))

/-- Connect all hosts or none. -/
def connectAll (options : Options) (hosts : List Host) : Action σ Fleet :=
  connectFrom peers (connectHost peers options) .empty hosts

end Connect
end ContainerFleet
