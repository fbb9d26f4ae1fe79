import ContainerFleet.Alert.History
import ContainerFleet.Alert.Memory
import ContainerFleet.Alert.Webhook
import ContainerFleet.Stats.Reading

/-!
# Monitoring

A scan lists the containers of every host and then reads the usage figures of
the running ones.  What the monitor's memory has to tell about them becomes
alerts, which go into the history and are announced.
-/

namespace ContainerFleet
namespace Alert

open Daemon

variable {σ : Type} (peers : Peers σ)

/-- Read the figures of those listed hosts on which a container runs. -/
def sweepAll (fleet : Fleet) : Table String (List Container) →
    Action σ (List (String × List Container × Except Fault (List Stats.Usage)))
  | [] => return []
  | (name, containers) :: later =>
    if containers.any Container.running then do
      let outcome ← attempt (fleet.onHost name (Stats.sweep peers))
      let rest ← sweepAll fleet later
      return (name, containers, outcome) :: rest
    else sweepAll fleet later

/-- One scan: what is remembered after it and what there is to tell, changes
of all hosts first, then thresholds. -/
def scan (settings : AlertSettings) (fleet : Fleet) (memory : Memory) :
    Action σ (Memory × List Notice) := do
  let listing ← fleet.gather (listContainers peers · true)
  let (memory, changes) := memory.takeListings listing.results
  let sweeps ← sweepAll peers fleet listing.results
  let (memory, crossings) := Memory.takeSweeps settings memory sweeps
  return (memory, changes ++ crossings)

/-- A monitor: its settings, what it remembers, the alerts it has raised, and
how many ids it has given out. -/
structure Monitor where
  settings : AlertSettings
  memory : Memory
  history : History
  issued : Nat
  /-- Whether it scans again and again, and is now waiting for the next time. -/
  watching : Bool
  /-- Whether it was stopped once; from then on it announces nothing. -/
  silent : Bool

namespace Monitor

/-- A monitor that has not scanned yet, where the settings allow a history. -/
def ofSettings (settings : AlertSettings) : Except Fault Monitor := do
  return ⟨settings, .empty, ← History.withCapacity settings.historySize, 0, false, false⟩

/-- Give ids and the time to notices, in order. -/
def number (now : Int) : Nat → List Notice → List Alert
  | _, [] => []
  | issued, notice :: later =>
    notice.alert (Alert.numberedId (issued + 1)) now :: number now (issued + 1) later

/-- Raise alerts: all go into the history, in order. -/
def record (monitor : Monitor) (alerts : List Alert) : Monitor :=
  { monitor with
    history := alerts.foldl History.add monitor.history
    issued := monitor.issued + alerts.length }

/-- Where the monitor announces alerts. -/
def webhook (monitor : Monitor) : Webhook where
  url := .text (monitor.settings.webhookUrl.getD "")
  timeout := .fraction monitor.settings.webhookTimeout
  source := Webhook.defaultSource

/-- Announce alerts where that is on; what comes of it changes nothing. -/
def announce (monitor : Monitor) (now : Int) (alerts : List Alert) : Action σ Unit :=
  if monitor.settings.announces && !monitor.silent then
    alerts.forM fun alert => do
      let _ ← attempt (monitor.webhook.send peers now alert)
  else pure ()

/-- Scan once; the alerts that were raised. -/
def checkOnce (monitor : Monitor) (fleet : Fleet) (now : Int) :
    Action σ (Monitor × List Alert) := do
  let (memory, notices) ← scan peers monitor.settings fleet monitor.memory
  let alerts := number now monitor.issued notices
  return ({ monitor with memory := memory }.record alerts, alerts)

/-- Scan once and announce what was raised. -/
def checkAndAnnounce (monitor : Monitor) (fleet : Fleet) (now : Int) :
    Action σ (Monitor × List Alert) := do
  let (monitor, alerts) ← monitor.checkOnce peers fleet now
  monitor.announce peers now alerts
  return (monitor, alerts)

/-- Begin to scan again and again, the first time at once; a monitor that does
so already is left as it is. -/
def watch (monitor : Monitor) (fleet : Fleet) (now : Int) : Action σ Monitor := do
  if monitor.watching then return monitor
  let (monitor, _) ← monitor.checkAndAnnounce peers fleet now
  return { monitor with watching := true }

/-- What a watching monitor does when the time for the next scan has come. -/
def wake (monitor : Monitor) (fleet : Fleet) (now : Int) : Action σ Monitor := do
  if !monitor.watching then return monitor
  return (← monitor.checkAndAnnounce peers fleet now).1

/-- Scan no more, and announce nothing from now on. -/
def stop (monitor : Monitor) : Monitor :=
  { monitor with watching := false, silent := true }

/-- The seconds between two scans. -/
def interval (monitor : Monitor) : Float :=
  monitor.settings.checkInterval

end Monitor

/-- How alerts are set up, for a reader. -/
structure SettingsView where
  enabled : Bool
  cpuThreshold : Float
  memoryThreshold : Float
  checkInterval : String
  announces : Bool
  deriving Repr

/-- The view of settings; a monitor's own view says whether they are enabled. -/
def SettingsView.of (settings : AlertSettings) (enabled : Bool) : SettingsView where
  enabled := enabled
  cpuThreshold := settings.cpuThreshold
  memoryThreshold := settings.memoryThreshold
  checkInterval := String.ofList (Decimal.general settings.checkInterval ++ ['s'])
  announces := settings.announces

end Alert
end ContainerFleet
