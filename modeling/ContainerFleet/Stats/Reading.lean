import ContainerFleet.Fleet
import ContainerFleet.Handoff
import ContainerFleet.Stats.Usage

/-!
# Reading statistics

Usage figures of one container, once or as they come, and of all running
containers of a host.
-/

namespace ContainerFleet
namespace Stats

open Daemon

/-- Which fault it is that a document gives no figures. -/
def faultOf : UsageError → Fault
  | .invalid issues => .invalidStats issues
  | .range error => .range error

/-- The figures of a document, or the fault. -/
def figures (containerId host : String) (document : Json) : Except Fault Usage :=
  (usageOf document containerId host).mapError faultOf

variable {σ : Type} (peers : Peers σ)

/-- The figures of one container of a host. -/
def readOnce (host : Host) (id : String) : Action σ Usage := do
  let document ← statsOnce peers host id
  ofExcept (fun fault => fault) (figures id host.name document)

/-- The figures of one container. -/
def once (fleet : Fleet) (hostName id : String) : Action σ Usage :=
  fleet.onHost hostName fun host => readOnce peers host id

/-- Text that is no document is a fault of the statistics, and so is a value
that the daemon's answer cannot have. -/
def streamFault (error : PeerError) : Fault :=
  match error.kind with
  | .badValue | .streamParse => .unreadableStats "" error
  | _ => .peer error

/-- The figures of one container as they come, to the end or up to a number of
them.  A reader who wants none does not even open the stream. -/
def follow (fleet : Fleet) (hostName id : String) (limit : Option Nat) :
    Action σ (Streamed Fault Usage) := do
  if limit = some 0 then return ⟨[], none⟩
  fleet.onHost hostName fun host => do
    let documents ← openStats peers host id
    let streamed := Streamed.mapWith (figures id hostName)
      (documents.map fun document => document.mapError streamFault)
    ignoring (peers.request host.uri (.closeStatsStream id))
    return streamed.within limit

/-- The figures of those of some containers that run and can be read. -/
def sweepFrom (host : Host) : List Container → Action σ (List Usage)
  | [] => return []
  | container :: later =>
    if container.running then do
      let outcome ← attempt (readOnce peers host container.id)
      let rest ← sweepFrom host later
      return outcome.toOption.toList ++ rest
    else sweepFrom host later

/-- The figures of all running containers of a host, as it lists them now. -/
def sweep (host : Host) : Action σ (List Usage) := do
  sweepFrom peers host (← listContainers peers host true)

end Stats
end ContainerFleet
