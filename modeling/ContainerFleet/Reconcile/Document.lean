import ContainerFleet.Json.Build
import ContainerFleet.Reconcile.Record

/-!
# Documents about reconciliations

The document in which the record of a reconciliation is handed to a caller,
with the answer to the question whether the first container still exists.
-/

namespace ContainerFleet
namespace Reconcile

open Json (ofTexts ofOption)

def Record.document (record : Record) : Json :=
  .object [("host", .text record.host), ("container_id", .text record.containerId),
    ("container_name", .text record.containerName), ("state", .text record.state.name),
    ("history", ofTexts (record.history.map State.name)), ("env", ofTexts record.env),
    ("new_container_id", ofOption id record.newContainerId),
    ("failed_step", ofOption (fun state => .text state.name) record.failedStep),
    ("error", ofOption .text record.error), ("original_removed", .bool record.originalRemoved)]

end Reconcile
end ContainerFleet
