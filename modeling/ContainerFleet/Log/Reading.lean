import ContainerFleet.Fleet
import ContainerFleet.Handoff

/-!
# Reading logs

The log of one container, read to its end or followed as it grows.  Both read
the same frames; in both the response is closed at the end, whatever the end
is.
-/

namespace ContainerFleet
namespace Log

open Daemon

variable {σ : Type} (peers : Peers σ)

/-- Close the response that a log came in. -/
def closeResponse (host : Host) (id : String) : Action σ Unit :=
  peers.request host.uri (.closeLogs id)

/-- The entries of a delivery, which fails as the delivery did. -/
def wholeDelivery (delivery : Delivery) : Except Fault (List Entry) :=
  match delivery.failure with
  | none => .ok delivery.entries
  | some failure => .error (.ofLog failure)

/-- The entries of a log that is read to its end. -/
def fetch (fleet : Fleet) (hostName id : String) (options : Options) :
    Action σ (List Entry) := do
  let options := options.bounded
  fleet.onHost hostName fun host => do
    let source ← openLogs peers host id options false
    closing (ofExcept (fun fault => fault) (wholeDelivery (Demux.run source)))
      (closeResponse peers host id)

/-- The entries of a log as they come, to the end or up to a number of them.
A reader who wants none does not even open the log.  That the response cannot
be closed is passed over. -/
def follow (fleet : Fleet) (hostName id : String) (options : Options) (limit : Option Nat) :
    Action σ (Streamed Fault Entry) := do
  if limit = some 0 then return ⟨[], none⟩
  fleet.onHost hostName fun host => do
    let source ← openLogs peers host id options true
    let delivery := Demux.run source
    ignoring (closeResponse peers host id)
    return (⟨delivery.entries, delivery.failure.map .ofLog⟩ : Streamed Fault Entry).within limit

end Log
end ContainerFleet
