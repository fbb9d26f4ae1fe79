import ContainerFleet.Fleet
import ContainerFleet.Handoff

/-!
# Fetching images

The progress of fetching an image, message by message.  An empty message ends
the progress, whatever the daemon has behind it.
-/

namespace ContainerFleet
namespace PullProgress

open Daemon

/-- The documents before the first that is null. -/
def untilNull : Documents → Documents
  | [] => []
  | .ok .null :: _ => []
  | document :: later => document :: untilNull later

/-- The progress that one message tells. -/
def ofDocument (document : Json) : Except Fault PullProgress :=
  ofColumns (columns document) decode

variable {σ : Type} (peers : Peers σ)

/-- The progress of fetching an image to a host, to the end or up to a number
of messages.  A reader who wants none does not even begin. -/
def follow (fleet : Fleet) (hostName image : String) (limit : Option Nat) :
    Action σ (Streamed Fault PullProgress) := do
  if limit = some 0 then return ⟨[], none⟩
  fleet.onHost hostName fun host => do
    let documents ← pullImage peers host image
    let messages := (untilNull documents).map fun message => message.mapError Fault.peer
    return (Streamed.mapWith ofDocument messages).within limit

end PullProgress
end ContainerFleet
