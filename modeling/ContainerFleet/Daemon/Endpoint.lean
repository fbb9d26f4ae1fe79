import ContainerFleet.Daemon.Exchange
import ContainerFleet.Inventory.Container
import ContainerFleet.Inventory.Image
import ContainerFleet.Inventory.Network
import ContainerFleet.Log.Options

/-!
# Operations on one host

What can be asked of the daemon of a connected host, each operation one
request and the reading of its answer.
-/

namespace ContainerFleet
namespace Daemon

variable {σ : Type} (peers : Peers σ) (host : Host)

/-- Whether the daemon says that it is there. -/
def ping : Action σ Bool := do
  return !(← peers.request host.uri .ping).isEmpty

/-- Give up the connection. -/
def closeClient : Action σ Unit :=
  peers.request host.uri .closeClient

/-- Read the parts of a listing, each through its columns. -/
def readListing {α : Type} (columns : Json → Except ShapeError Decode.Members)
    (decode : Decode.Members → Decode.Checked α) (document : Json) : Except Fault (List α) := do
  (← document.parts.mapError .shape).mapM fun part => ofColumns (columns part) decode

/-- The containers of the host: those that run, or all. -/
def listContainers (all : Bool) : Action σ (List Container) := do
  let document ← peers.request host.uri (.containers all)
  ofExcept id (readListing (Container.columns · host.name) Container.decode document)

def inspectContainer (id : String) : Action σ Json :=
  peers.request host.uri (.inspectContainer id)

def startContainer (id : Json) : Action σ Unit :=
  peers.request host.uri (.start id)

def stopContainer (id : String) : Action σ Unit :=
  peers.request host.uri (.stop id)

def restartContainer (id : String) : Action σ Unit :=
  peers.request host.uri (.restart id)

def removeContainer (id : String) : Action σ Unit :=
  peers.request host.uri (.remove id)

/-- Create a container; the answer is its id. -/
def createContainer (config : Json) (name : Option String) : Action σ Json := do
  let answer ← peers.request host.uri (.create config name)
  ofExcept .shape (answer.demand "Id")

def listImages : Action σ (List Image) := do
  let document ← peers.request host.uri (.images false)
  ofExcept id (readListing (Image.listed · host.name) Image.decode document)

/-- Read the description of an image. -/
def readImage (document : Json) : Except Fault Image := do
  let config := (← (document.get "Config").mapError Fault.shape).orElse (.object [])
  let created ← (← (document.get "Created").mapError Fault.shape)
    |> Image.creationSecond |>.mapError Fault.range
  let labels ← (config.get "Labels").mapError Fault.shape
  ofColumns (Image.columns document created labels host.name) Image.decode

def inspectImage (id : String) : Action σ Image := do
  let document ← peers.request host.uri (.inspectImage id)
  ofExcept (fun fault => fault) (readImage host document)

def removeImage (id : String) (force : Bool) : Action σ ImageRemoval := do
  let document ← peers.request host.uri (.removeImage id force false)
  ofExcept .shape (ImageRemoval.ofDocument document)

/-- Messages about the progress of fetching an image. -/
def pullImage (image : String) : Action σ Documents :=
  peers.request host.uri (.pull image)

def listNetworks : Action σ (List Network) := do
  let document ← peers.request host.uri .networks
  ofExcept id (readListing (Network.listed · host.name) Network.decode document)

def inspectNetwork (id : String) : Action σ NetworkDetails := do
  let document ← peers.request host.uri (.inspectNetwork id true)
  ofExcept (fun fault => fault) (NetworkDetails.ofDocument document host.name)

/-- A statistics document; an answer that is no document is a fault of the
statistics, not of the daemon. -/
def statsOnce (id : String) : Action σ Json := do
  match ← attempt (peers.request host.uri (.stats id)) with
  | .ok document => return document
  | .error (.peer error) =>
    if error.kind = .badValue then throw (.unreadableStats s!" for {id}" error)
    else throw (.peer error)
  | .error fault => throw fault

/-- Statistics documents as they come, without a limit on the time between
them. -/
def openStats (id : String) : Action σ Documents := do
  let documents ← peers.request host.uri (.statsStream id)
  peers.request host.uri .waitForever
  return documents

/-- The log of a container; a followed log may stay silent for any time. -/
def openLogs (id : String) (options : Log.Options) (follow : Bool) : Action σ Log.ByteSource := do
  let source ← peers.request host.uri (.logs id (options.query follow))
  if follow then peers.request host.uri .waitForever
  return source

/-- Prepare a command in a container; the answer is the id of the execution. -/
def createExec (id : String) (command : List String) : Action σ Json := do
  let answer ← peers.request host.uri (.createExec id command)
  ofExcept .shape (answer.demand "Id")

/-- Attach to a prepared command; its stream may stay silent for any time. -/
def attachExec (execId : String) : Action σ Unit := do
  peers.request host.uri (.attachExec execId)
  peers.request host.uri .waitForever

def resizeExec (execId : String) (height width : Int) : Action σ Unit :=
  peers.request host.uri (.resizeExec execId height width)

/-- Shut down and close the stream of an attached command.  The shutdown may
fail where the stream is already gone; other failures are passed on and the
stream is then not closed. -/
def closeExec : Action σ Unit := do
  match ← attempt (peers.request host.uri .shutDownSocket) with
  | .ok () => pure ()
  | .error (.peer error) => if error.kind.isSystem then pure () else throw (.peer error)
  | .error fault => throw fault
  peers.request host.uri .closeSocket

end Daemon
end ContainerFleet
