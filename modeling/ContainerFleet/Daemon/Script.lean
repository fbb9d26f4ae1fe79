import ContainerFleet.Daemon.Exchange
import ContainerFleet.Json.Shown
import ContainerFleet.Table

/-!
# Scripted peers

Peers whose answers are written down beforehand, so that every operation can
be run without a network.  A script has an entry for a request's name, or for
the name and the argument together, which counts first.  Several responses of
one entry are given one after another, the last of them for good.  What no
entry answers is answered as by a daemon that is there and has nothing.
-/

namespace ContainerFleet
namespace Daemon

/-- How a request is answered. -/
inductive Response where
  | document (value : Json)
  | failure (error : PeerError)
  /-- A log, and how closing it fails, if it does. -/
  | log (source : Log.ByteSource) (closing : Option PeerError)
  /-- Documents one by one, and how closing them fails, if it does. -/
  | stream (documents : Documents) (closing : Option PeerError)

/-- The responses of a daemon by request. -/
abbrev Script := Table String (List Response)

/-- The name of a request in scripts, and the argument that may stand there;
null is no argument. -/
def Call.key : Call → String × Option String
  | .connect _ => ("connect", none)
  | .closeClient => ("client_close", none)
  | .ping => ("ping", none)
  | .containers _ => ("containers", none)
  | .images _ => ("images", none)
  | .networks => ("networks", none)
  | .inspectContainer id => ("inspect_container", id)
  | .start .null => ("start", none)
  | .start id => ("start", id.shown)
  | .stop id => ("stop", id)
  | .restart id => ("restart", id)
  | .remove id => ("remove_container", id)
  | .create _ name => ("create", name)
  | .inspectImage id => ("inspect_image", id)
  | .removeImage id _ _ => ("remove_image", id)
  | .pull image => ("pull", image)
  | .inspectNetwork id _ => ("inspect_network", id)
  | .stats id => ("stats", id)
  | .logs id _ => ("logs", id)
  | .closeLogs id => ("close logs", id)
  | .statsStream id => ("stats_stream", id)
  | .closeStatsStream id => ("close stats_stream", id)
  | .waitForever => ("disable_timeout", none)
  | .createExec id _ => ("exec_create", id)
  | .attachExec _ => ("exec_start", none)
  | .resizeExec id _ _ => ("exec_resize", id)
  | .shutDownSocket => ("sock_shutdown", none)
  | .closeSocket => ("sock_close", none)

/-- The entries that answer a request, the one that counts first in front. -/
def Call.entries (call : Call) : List String :=
  match call.key with
  | (name, some argument) => [name ++ " " ++ argument, name]
  | (name, none) => [name]

/-- The error of a daemon that does not have what is asked for. -/
def Call.missing (call : Call) : PeerError :=
  let (name, argument) := call.key
  ⟨.notFound, s!"no {name} for {argument.getD name}"⟩

/-- Scripted daemons by address, how many responses of each entry were given,
how closing the open responses fails, and what will come of messages. -/
structure Stage where
  scripts : Table String Script
  given : Table (String × String) Nat
  closing : Table (String × String) PeerError
  deliveries : List Delivery

namespace Stage

/-- A stage on which nothing was asked yet. -/
def start (scripts : Table String Script) (deliveries : List Delivery) : Stage :=
  ⟨scripts, [], [], deliveries⟩

/-- The next response to a request, if its daemon has an entry for it. -/
def next (stage : Stage) (uri : String) (call : Call) : Option Response × Stage :=
  let script := (stage.scripts.get? uri).getD []
  match call.entries.find? script.contains with
  | none => (none, stage)
  | some entry =>
    let count := (stage.given.get? (uri, entry)).getD 0
    let responses := (script.get? entry).getD []
    (responses[min count (responses.length - 1)]?,
      { stage with given := stage.given.set (uri, entry) (count + 1) })

/-- Keep in mind how closing an opened response will fail. -/
def opened (stage : Stage) (uri closingKey : String) (error : Option PeerError) : Stage :=
  match error with
  | some error => { stage with closing := stage.closing.set (uri, closingKey) error }
  | none => { stage with closing := stage.closing.erase (uri, closingKey) }

/-- A response that has to be a document. -/
def document (stage : Stage) (uri : String) (call : Call) (default : Except PeerError Json) :
    Except PeerError Json × Stage :=
  match stage.next uri call with
  | (some (.document value), stage) => (.ok value, stage)
  | (some (.failure error), stage) => (.error error, stage)
  | (_, stage) => (default, stage)

/-- A response that only succeeds or fails. -/
def signal (stage : Stage) (uri : String) (call : Call) : Except PeerError Unit × Stage :=
  let (answer, stage) := stage.document uri call (.ok .null)
  (answer.map fun _ => (), stage)

/-- A response that is a sequence of documents. -/
def documents (stage : Stage) (uri : String) (call : Call) (closingKey : String) :
    Except PeerError Documents × Stage :=
  match stage.next uri call with
  | (some (.stream documents error), stage) =>
    (.ok documents, stage.opened uri closingKey error)
  | (some (.failure error), stage) => (.error error, stage)
  | (_, stage) => (.error call.missing, stage)

/-- A response that is a log. -/
def log (stage : Stage) (uri : String) (call : Call) (closingKey : String) :
    Except PeerError Log.ByteSource × Stage :=
  match stage.next uri call with
  | (some (.log source error), stage) => (.ok source, stage.opened uri closingKey error)
  | (some (.failure error), stage) => (.error error, stage)
  | (_, stage) => (.error call.missing, stage)

/-- The name under which the closing of a request's response is kept. -/
def closingKey (call : Call) : String :=
  let (name, argument) := call.key
  name ++ " " ++ argument.getD ""

/-- Close a response. -/
def close (stage : Stage) (uri : String) (call : Call) : Except PeerError Unit × Stage :=
  match stage.closing.get? (uri, closingKey call) with
  | some error => (.error error, stage)
  | none => (.ok (), stage)

/-- Dial a daemon, which has to be there. -/
def dial (stage : Stage) (uri : String) (call : Call) : Except PeerError Unit × Stage :=
  if stage.scripts.contains uri then stage.signal uri call
  else (.error ⟨.daemon, s!"no daemon at {uri}"⟩, stage)

/-- An answer with an id. -/
def withId (id : String) : Except PeerError Json :=
  .ok (.object [("Id", .text id)])

/-- What is answered to a request. -/
def answer (uri : String) : (call : Call) → Stage → Except PeerError call.Answer × Stage
  | .connect dialled, stage => stage.dial uri (.connect dialled)
  | .closeClient, stage => stage.signal uri .closeClient
  | .ping, stage => stage.document uri .ping (.ok (.bool true))
  | .containers all, stage => stage.document uri (.containers all) (.ok (.array []))
  | .images all, stage => stage.document uri (.images all) (.ok (.array []))
  | .networks, stage => stage.document uri .networks (.ok (.array []))
  | .inspectContainer id, stage =>
    stage.document uri (.inspectContainer id) (.error (Call.inspectContainer id).missing)
  | .start id, stage => stage.signal uri (.start id)
  | .stop id, stage => stage.signal uri (.stop id)
  | .restart id, stage => stage.signal uri (.restart id)
  | .remove id, stage => stage.signal uri (.remove id)
  | .create config name, stage =>
    stage.document uri (.create config name) (withId "new0000000000000")
  | .inspectImage id, stage =>
    stage.document uri (.inspectImage id) (.error (Call.inspectImage id).missing)
  | .removeImage id force keep, stage =>
    stage.document uri (.removeImage id force keep) (.ok .null)
  | .pull image, stage => stage.documents uri (.pull image) ("pull " ++ image)
  | .inspectNetwork id verbose, stage =>
    stage.document uri (.inspectNetwork id verbose) (.error (Call.inspectNetwork id verbose).missing)
  | .stats id, stage => stage.document uri (.stats id) (.error (Call.stats id).missing)
  | .logs id query, stage => stage.log uri (.logs id query) (closingKey (.closeLogs id))
  | .closeLogs id, stage => stage.close uri (.closeLogs id)
  | .statsStream id, stage =>
    stage.documents uri (.statsStream id) (closingKey (.closeStatsStream id))
  | .closeStatsStream id, stage => stage.close uri (.closeStatsStream id)
  | .waitForever, stage => (.ok (), stage)
  | .createExec id command, stage =>
    stage.document uri (.createExec id command) (withId "exec1234567890abcdef")
  | .attachExec id, stage => stage.signal uri (.attachExec id)
  | .resizeExec id height width, stage => stage.signal uri (.resizeExec id height width)
  | .shutDownSocket, stage => stage.signal uri .shutDownSocket
  | .closeSocket, stage => stage.signal uri .closeSocket

/-- What comes of a message; a receiver without a script takes it. -/
def deliver (_ : Post) (stage : Stage) : Delivery × Stage :=
  match stage.deliveries with
  | [] => (.status 200, stage)
  | delivery :: later => (delivery, { stage with deliveries := later })

/-- The scripted peers. -/
def peers : Peers Stage := ⟨answer, deliver⟩

/-- Change the script of a daemon: entries are set, then some entries go.  An
entry that is set begins with its first response. -/
def change (stage : Stage) (uri : String) (removed : List String) (entries : Script) : Stage :=
  let script := entries.foldl (fun script entry => script.set entry.1 entry.2)
    ((stage.scripts.get? uri).getD [])
  let script := removed.foldl Table.erase script
  { stage with
    scripts := stage.scripts.set uri script
    given := stage.given.filter fun count =>
      !(count.1.1 == uri && (removed ++ entries.keys).contains count.1.2) }

end Stage
end Daemon
end ContainerFleet
