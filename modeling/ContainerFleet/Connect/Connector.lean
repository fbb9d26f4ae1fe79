import ContainerFleet.Connect

/-!
# Connections of any kind

What a connection to a host is does not matter for connecting all hosts or none: it is
enough that one can be made for a host and that it can be given up.  A fleet is the case
in which the host itself stands for the connection to its daemon.
-/

namespace ContainerFleet

open Daemon

/-- The hosts of a fleet under their names. -/
def Fleet.table (fleet : Fleet) : Table String Host :=
  fleet.hosts.map fun host => (host.name, host)

namespace Connect

/-- How connections of one kind are made and given up. -/
structure Connector (σ ε : Type) where
  connect : Host → Action σ ε
  close : ε → Action σ Unit

/-- The host at which connecting ended, and the fault that ended it; there is none where
the name of the host was taken. -/
structure Unreached where
  host : Host
  fault? : Option Fault

/-- The cause that is reported. -/
def Unreached.cause (unreached : Unreached) : ConnectCause :=
  match unreached.fault? with
  | none => .duplicateName
  | some fault => causeOf fault

/-- What is reported. -/
def Unreached.fault (unreached : Unreached) : Fault :=
  .hostUnreachable unreached.host.name unreached.host.uri unreached.cause

namespace Connector

variable {σ ε : Type} (connector : Connector σ ε)

/-- Give up connections one after another; one that cannot be given up does not keep the
others. -/
def closeAll (made : Table String ε) : Action σ Unit :=
  made.forM fun entry => ignoring (connector.close entry.2)

/-- Connect hosts one after another, beside those for which connections are made. -/
def connectFrom : Table String ε → List Host → Action σ (Except Unreached (Table String ε))
  | made, [] => return .ok made
  | made, host :: later => do
    if made.contains host.name then
      connector.closeAll made
      return .error ⟨host, none⟩
    match ← attempt (connector.connect host) with
    | .ok endpoint => connectFrom (made.set host.name endpoint) later
    | .error fault =>
      connector.closeAll made
      return .error ⟨host, some fault⟩

/-- Connect all hosts or none. -/
def connectAll (hosts : List Host) : Action σ (Except Unreached (Table String ε)) :=
  connector.connectFrom [] hosts

end Connector

/-- Connections to daemons: what is held of one is its host. -/
def daemons {σ : Type} (peers : Peers σ) (connect : Host → Action σ Unit) : Connector σ Host where
  connect host := do
    connect host
    return host
  close := closeClient peers

end Connect
end ContainerFleet
