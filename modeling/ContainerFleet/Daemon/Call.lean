import ContainerFleet.Host
import ContainerFleet.Json.Basic
import ContainerFleet.Log.Source

/-!
# Calls to a daemon

The requests that a host's daemon understands, with their arguments, and what
each of them answers.  The requests that change a container or an image, or
run something in a container, are told apart from those that only read.
-/

namespace ContainerFleet
namespace Daemon

/-- How a daemon is dialled. -/
structure Dial where
  uri : String
  timeout : Int
  /-- Whether the tunnel is left to the system's own ssh program; only said
  for hosts that are reached through ssh. -/
  sshProgram : Option Bool
  /-- Whether the connection is encrypted; only said for direct connections. -/
  tls : Option Bool
  deriving DecidableEq, Repr

/-- Which part of a container's log is asked for. -/
structure LogQuery where
  stdout : Bool
  stderr : Bool
  timestamps : Bool
  follow : Bool
  details : Bool
  tail : String
  since : Option String
  upTo : Option String
  deriving DecidableEq, Repr

/-- A request to a daemon. -/
inductive Call where
  | connect (dial : Dial)
  | closeClient
  | ping
  | containers (all : Bool)
  | images (all : Bool)
  | networks
  | inspectContainer (id : String)
  /-- A container is started under the id it was created with, whatever kind
  of document the daemon gave for it. -/
  | start (id : Json)
  | stop (id : String)
  | restart (id : String)
  | remove (id : String)
  | create (config : Json) (name : Option String)
  | inspectImage (id : String)
  | removeImage (id : String) (force keepParents : Bool)
  | pull (image : String)
  | inspectNetwork (id : String) (verbose : Bool)
  | stats (id : String)
  | logs (id : String) (query : LogQuery)
  | closeLogs (id : String)
  | statsStream (id : String)
  | closeStatsStream (id : String)
  | waitForever
  | createExec (id : String) (command : List String)
  | attachExec (execId : String)
  | resizeExec (execId : String) (height width : Int)
  | shutDownSocket
  | closeSocket
  deriving BEq, Repr

/-- Documents that arrive one by one; one that cannot be had is an error. -/
abbrev Documents := List (Except PeerError Json)

namespace Call

/-- What a request answers when it succeeds. -/
abbrev Answer : Call → Type
  | .ping | .containers _ | .images _ | .networks => Json
  | .inspectContainer _ | .create _ _ | .inspectImage _ | .removeImage _ _ _ => Json
  | .inspectNetwork _ _ | .stats _ | .createExec _ _ => Json
  | .pull _ | .statsStream _ => Documents
  | .logs _ _ => Log.ByteSource
  | _ => Unit

/-- The request changes a container or an image, or runs something in a
container. -/
def changes : Call → Bool
  | .start _ | .stop _ | .restart _ | .remove _ | .create _ _ => true
  | .removeImage _ _ _ | .pull _ | .createExec _ _ => true
  | _ => false

end Call
end Daemon
end ContainerFleet
