import ContainerFleet.Json.Basic

/-!
# Record of a reconciliation

Giving a container a new environment means to stop and remove it and to
create and start it anew.  The record says which of these steps were begun,
how the run ended, and with it whether the first container is still there.
-/

namespace ContainerFleet
namespace Reconcile

/-- The steps of a run, before them the state found and after them the two ends. -/
inductive State where
  | current
  | stopping
  | removing
  | creating
  | starting
  | done
  | failed
  deriving DecidableEq, Repr

namespace State

def name : State → String
  | .current => "current"
  | .stopping => "stopping"
  | .removing => "removing"
  | .creating => "creating"
  | .starting => "starting"
  | .done => "done"
  | .failed => "failed"

end State

/-- The record of one run. -/
structure Record where
  host : String
  containerId : String
  containerName : String
  state : State
  history : List State
  env : List String
  newContainerId : Option Json
  failedStep : Option State
  error : Option String
  deriving BEq, Repr

namespace Record

/-- The record before anything was done. -/
def start (host containerId : String) : Record :=
  ⟨host, containerId, "", .current, [.current], [], none, none, none⟩

/-- Enter a state. -/
def enter (record : Record) (state : State) : Record :=
  { record with state := state, history := record.history ++ [state] }

/-- The first container no longer exists: its removal was followed by a
further step. -/
def originalRemoved (record : Record) : Bool :=
  record.history.contains .creating

end Record
end Reconcile
end ContainerFleet
