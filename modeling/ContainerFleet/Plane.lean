import ContainerFleet.Alert.Monitor
import ContainerFleet.Connect
import ContainerFleet.Inventory.Pull
import ContainerFleet.Log.Reading
import ContainerFleet.Reconcile.Run
import ContainerFleet.Terminal.Session

/-!
# The control plane

One place from which everything is done: a connected fleet, the settings it
was built from and, where alerts are enabled, their monitor.  All that a
caller can ask of it is an `Operation`, and `perform` says what each of them
does.  Where the settings are read-only, the operations that are marked as
changing something are refused before any daemon is called.
-/

namespace ContainerFleet

open Daemon

structure Plane where
  settings : Settings
  fleet : Fleet
  monitor : Option Alert.Monitor

/-- What can be asked of a control plane. -/
inductive Operation where
  | start
  | stop
  | listContainers
  | listImages
  | listNetworks
  | networkDetails (host id : String)
  | startContainer (host id : String)
  | stopContainer (host id : String)
  | restartContainer (host id : String)
  | removeContainer (host id : String)
  | readEnv (host id : String)
  | reconcileEnv (host id : String) (desired : Reconcile.Env)
  | pullImage (host image : String) (limit : Option Nat)
  | removeImage (host id : String) (force : Bool)
  | fetchLogs (host id : String) (options : Log.Options)
  | followLogs (host id : String) (options : Log.Options) (limit : Option Nat)
  | readStats (host id : String)
  | followStats (host id : String) (limit : Option Nat)
  | sweepStats (host : String)
  | openTerminal (host id : String) (textArrives : Bool) (events : List Terminal.Event)
  | recentAlerts (limit : Int)
  | pendingAlerts
  | acknowledge (id : String)
  | acknowledgeAll
  | alertSettings

namespace Operation

/-- What an operation answers when it succeeds. -/
abbrev Answer : Operation → Type
  | .listContainers => Fleet.Gathered (List Container)
  | .listImages => Fleet.Gathered (List Image)
  | .listNetworks => Fleet.Gathered (List Network)
  | .networkDetails _ _ => NetworkDetails
  | .readEnv _ _ => Reconcile.Env
  | .reconcileEnv _ _ _ => Option Json
  | .pullImage _ _ _ => Streamed Fault PullProgress
  | .removeImage _ _ _ => ImageRemoval
  | .fetchLogs _ _ _ => List Log.Entry
  | .followLogs _ _ _ _ => Streamed Fault Log.Entry
  | .readStats _ _ => Stats.Usage
  | .followStats _ _ _ => Streamed Fault Stats.Usage
  | .sweepStats _ => List Stats.Usage
  | .openTerminal _ _ _ _ => Terminal.Session × List Terminal.Effect
  | .recentAlerts _ => List Alert
  | .pendingAlerts | .acknowledgeAll => Nat
  | .alertSettings => Alert.SettingsView
  | _ => Unit

/-- The words under which an operation is refused where nothing may be
changed; the operations without words are never refused. -/
def guardedName : Operation → Option String
  | .startContainer _ _ => "start container"
  | .stopContainer _ _ => "stop container"
  | .restartContainer _ _ => "restart container"
  | .removeContainer _ _ => "remove container"
  | .reconcileEnv _ _ _ => "update env variables"
  | .pullImage _ _ _ => "pull image"
  | .removeImage _ _ _ => "remove image"
  | _ => none

/-- An operation that does not even begin because its reader wants nothing. -/
def isIdle : Operation → Bool
  | .pullImage _ _ limit => limit == some 0
  | _ => false

end Operation

namespace Plane

variable {σ : Type} (peers : Peers σ)

/-- Connect the configured hosts and set up the monitor. -/
def ofSettings (settings : Settings) : Action σ Plane := do
  let fleet ← Connect.connectAll peers ⟨settings.hosts.timeout, settings.hosts.sshProgram⟩
    settings.hosts.list
  if settings.alerts.enabled then
    let monitor ← ofExcept (fun fault => fault) (Alert.Monitor.ofSettings settings.alerts)
    return ⟨settings, fleet, some monitor⟩
  else return ⟨settings, fleet, none⟩

/-- The environment that a container declares. -/
def readEnv (host : Host) (id : String) : Action σ Reconcile.Env := do
  let description ← inspectContainer peers host id
  ofExcept .shape (Reconcile.describedEnv description)

/-- How alerts are set up; without a monitor they are not enabled. -/
def alertSettings (plane : Plane) : Alert.SettingsView :=
  match plane.monitor with
  | some monitor => .of monitor.settings monitor.settings.enabled
  | none => .of plane.settings.alerts false

/-- The newest alerts; without a monitor there are none. -/
def recentAlerts (plane : Plane) (limit : Int) : List Alert :=
  match plane.monitor with
  | some monitor => monitor.history.recent limit
  | none => []

/-- How many alerts are not acknowledged. -/
def pendingAlerts (plane : Plane) : Nat :=
  match plane.monitor with
  | some monitor => monitor.history.pending
  | none => 0

/-- Acknowledge one alert, which has to be there. -/
def acknowledge (plane : Plane) (id : String) : Except Fault Plane :=
  match plane.monitor with
  | none => .error (.alertNotFound id)
  | some monitor =>
    if monitor.history.holds id then
      .ok { plane with
        monitor := some { monitor with history := monitor.history.acknowledge id } }
    else .error (.alertNotFound id)

/-- Acknowledge all alerts. -/
def acknowledgeAll (plane : Plane) : Plane :=
  { plane with monitor := plane.monitor.map fun monitor =>
      { monitor with history := monitor.history.acknowledgeAll } }

/-- Begin to watch, where there is a monitor. -/
def start (plane : Plane) (now : Int) : Action σ Plane := do
  match plane.monitor with
  | some monitor => return { plane with monitor := some (← monitor.watch peers plane.fleet now) }
  | none => return plane

/-- Stop watching and give up all connections. -/
def stop (plane : Plane) : Action σ Plane := do
  plane.fleet.close peers
  return { plane with monitor := plane.monitor.map Alert.Monitor.stop }

/-- What an operation does where it is not refused: its answer and the plane
after it. -/
def act (plane : Plane) (now : Int) : (operation : Operation) →
    Action σ (operation.Answer × Plane)
  | .start => return ((), ← plane.start peers now)
  | .stop => return ((), ← plane.stop peers)
  | .listContainers => return (← plane.fleet.gather (listContainers peers · true), plane)
  | .listImages => return (← plane.fleet.gather (listImages peers), plane)
  | .listNetworks => return (← plane.fleet.gather (listNetworks peers), plane)
  | .networkDetails host id =>
    return (← plane.fleet.onHost host (inspectNetwork peers · id), plane)
  | .startContainer host id =>
    return (← plane.fleet.onHost host (startContainer peers · (.text id)), plane)
  | .stopContainer host id =>
    return (← plane.fleet.onHost host (stopContainer peers · id), plane)
  | .restartContainer host id =>
    return (← plane.fleet.onHost host (restartContainer peers · id), plane)
  | .removeContainer host id =>
    return (← plane.fleet.onHost host (removeContainer peers · id), plane)
  | .readEnv host id => return (← plane.fleet.onHost host (readEnv peers · id), plane)
  | .reconcileEnv host id desired => do
    let record ← plane.fleet.onHost host (Reconcile.run peers · id desired)
    return (record.newContainerId, plane)
  | .pullImage host image limit =>
    return (← PullProgress.follow peers plane.fleet host image limit, plane)
  | .removeImage host id force =>
    return (← plane.fleet.onHost host (removeImage peers · id force), plane)
  | .fetchLogs host id options =>
    return (← Log.fetch peers plane.fleet host id options, plane)
  | .followLogs host id options limit =>
    return (← Log.follow peers plane.fleet host id options limit, plane)
  | .readStats host id => return (← Stats.once peers plane.fleet host id, plane)
  | .followStats host id limit =>
    return (← Stats.follow peers plane.fleet host id limit, plane)
  | .sweepStats host => return (← plane.fleet.onHost host (Stats.sweep peers), plane)
  | .openTerminal host id textArrives events =>
    return (← Terminal.Session.run peers plane.fleet host id textArrives events, plane)
  | .recentAlerts limit => return (plane.recentAlerts limit, plane)
  | .pendingAlerts => return (plane.pendingAlerts, plane)
  | .acknowledge id => return ((), ← ofExcept (fun fault => fault) (plane.acknowledge id))
  | .acknowledgeAll => return (plane.pendingAlerts, plane.acknowledgeAll)
  | .alertSettings => return (plane.alertSettings, plane)

/-- Refuse an operation that has words for it where nothing may be changed. -/
def permit (plane : Plane) (operation : Operation) : Except Fault Unit :=
  match plane.settings.readOnly, operation.guardedName with
  | true, some name => if operation.isIdle then .ok () else .error (.readOnly name)
  | _, _ => .ok ()

/-- Do an operation, unless it is refused. -/
def perform (plane : Plane) (now : Int) (operation : Operation) :
    Action σ (operation.Answer × Plane) := do
  ofExcept (fun fault => fault) (plane.permit operation)
  plane.act peers now operation

end Plane
end ContainerFleet
