import ContainerFleet.Fleet
import ContainerFleet.Json.Build
import ContainerFleet.Json.Pairs
import ContainerFleet.Reconcile.Env

/-!
# Running a reconciliation

A container is inspected, stopped, removed, created anew with the desired
environment and started.  Everything that is needed for the new container is
worked out before the first change.  Whatever fails on the way ends the run
with a record of how far it came.
-/

namespace ContainerFleet
namespace Reconcile

open Daemon

/-- The request that creates a described container anew: its own settings
with the parts of another environment, its host settings, and the networks it
is in. -/
def createConfig (description env : Json) : Except ShapeError Json := do
  let config ← ((← description.get "Config").orElse (.object [])).toMembers
  let env ← env.parts
  let hostConfig := (← description.get "HostConfig").orElse (.object [])
  let settings := (← description.get "NetworkSettings").orElse (.object [])
  let networks := (← settings.get "Networks").orElse (.object [])
  let config := Table.set config "Env" (.array env)
  let config := Table.set config "HostConfig" hostConfig
  return .object (Table.set config "NetworkingConfig" (.object [("EndpointsConfig", networks)]))

/-- The environment that a description declares. -/
def describedEnv (description : Json) : Except ShapeError Env := do
  let config := (← description.get "Config").orElse (.object [])
  Env.ofDocument ((← config.get "Env").orElse (.array []))

/-- Work out what the new container needs and note it in the record; the
record also keeps what was found before a failure. -/
def prepare (record : Record) (description : Json) (desired : Env) :
    Record × Except ShapeError Json :=
  match describedEnv description with
  | .error error => (record, .error error)
  | .ok current =>
    let record := { record with env := Env.toEntries (Env.merge current desired) }
    match (description.get "Name").bind fun name => (name.orElse (.text "")).textFor "lstrip" with
    | .error error => (record, .error error)
    | .ok name =>
      ({ record with containerName := withoutSlashes name }, createConfig description (.ofTexts record.env))

/-- The record of a run that failed in the step it was in. -/
def Record.fail (record : Record) (reason : String) : Record :=
  { record with failedStep := some record.state, error := some reason }.enter .failed

variable {σ α : Type}

/-- Run a part of a step; its fault ends the run. -/
def during (record : Record) (action : Action σ α) : Action σ α := do
  match ← attempt action with
  | .ok value => return value
  | .error fault => throw (.reconcile record.state fault.message (record.fail fault.message))

/-- A new container's id is reported in part, so it must be something that has
a beginning. -/
def reportable : Json → Except ShapeError Unit
  | .text _ => .ok ()
  | .array _ => .ok ()
  | other => .error (.notIndexable other.kind)

/-- Give a container on a host a desired environment. -/
def run (peers : Peers σ) (host : Host) (id : String) (desired : Env) : Action σ Record := do
  let record := Record.start host.name id
  let description ← during record (inspectContainer peers host id)
  let (record, prepared) := prepare record description desired
  let config ← during record (ofExcept .shape prepared)
  let record := record.enter .stopping
  during record (stopContainer peers host id)
  let record := record.enter .removing
  during record (removeContainer peers host id)
  let record := record.enter .creating
  let newId ← during record (createContainer peers host config
    (if record.containerName.isEmpty then none else some record.containerName))
  let record := { record with newContainerId := some newId }.enter .starting
  during record (startContainer peers host newId)
  let record := record.enter .done
  ofExcept .shape (reportable newId)
  return record

end Reconcile
end ContainerFleet
