import ContainerFleet.Settings.HostList
import ContainerFleet.Settings.Variables

/-!
# Settings

What can be set from outside: the hosts and how they are reached, the alerts,
the amount of logging, and whether anything may be changed.  The first two are
groups with fields of their own, whose values come from explicit keywords or
else from environment variables.
-/

namespace ContainerFleet

open Decode

/-- The hosts and how they are reached. -/
structure HostSettings where
  hosts : String
  timeout : Int
  sshProgram : Bool
  deriving DecidableEq, Repr

/-- When alerts are raised and where they are announced. -/
structure AlertSettings where
  enabled : Bool
  cpuThreshold : Float
  memoryThreshold : Float
  checkInterval : Float
  webhookUrl : Option String
  webhookTimeout : Float
  historySize : Int
  deriving Repr

structure Settings where
  logLevel : String
  readOnly : Bool
  hosts : HostSettings
  alerts : AlertSettings
  deriving Repr

namespace HostSettings

def fields : List String := ["hosts", "timeout", "use_ssh_client"]

/-- A list of hosts that can be read. -/
def hostList : Decoder String := fun document =>
  (text document).andThen fun list =>
    match HostList.check list with
    | .ok () => .ok list
    | .error flaw => .problem (.rejected flaw.message)

def decode (members : Members) : Checked HostSettings :=
  HostSettings.mk
    <$> withDefault members "hosts" hostList "local=unix:///var/run/docker.sock"
    <*> withDefault members "timeout" (ensure whole (1 ≤ ·) .belowMinimum) 60
    <*> withDefault members "use_ssh_client" flag true

/-- The settings from keywords and variables; keywords count first. -/
def load (environment : Variables) (keywords : Members) : Checked HostSettings :=
  (fun settings _ => settings)
    <$> decode (Settings.fieldMembers keywords fields ++ environment.toMembers "docker_" fields)
    <*> Settings.checkNames keywords fields

/-- The configured hosts. -/
def list (settings : HostSettings) : List Host :=
  HostList.hosts settings.hosts

end HostSettings

namespace AlertSettings

def fields : List String :=
  ["enabled", "cpu_threshold", "memory_threshold", "check_interval", "webhook_url",
   "webhook_timeout", "history_size"]

/-- A fraction that is not below a bound. -/
def atLeast (bound : Float) : Decoder Float :=
  ensure fraction (bound ≤ ·) .belowMinimum

def decode (members : Members) : Checked AlertSettings :=
  AlertSettings.mk
    <$> withDefault members "enabled" flag false
    <*> withDefault members "cpu_threshold" (atLeast 0.0) 80.0
    <*> withDefault members "memory_threshold"
      (ensure (ensure fraction (· ≤ 100.0) .aboveMaximum) (0.0 ≤ ·) .belowMinimum) 90.0
    <*> withDefault members "check_interval" (atLeast 1.0) 30.0
    <*> withDefault members "webhook_url" (optional text) none
    <*> withDefault members "webhook_timeout" (ensure fraction (0.0 < ·) .notAboveBound) 10.0
    <*> withDefault members "history_size" (ensure whole (1 ≤ ·) .belowMinimum) 100

/-- The settings from keywords and variables; keywords count first. -/
def load (environment : Variables) (keywords : Members) : Checked AlertSettings :=
  (fun settings _ => settings)
    <$> decode (Settings.fieldMembers keywords fields ++ environment.toMembers "alerts_" fields)
    <*> Settings.checkNames keywords fields

/-- Alerts are announced where an address is set. -/
def announces (settings : AlertSettings) : Bool :=
  settings.webhookUrl.any fun url => !url.isEmpty

end AlertSettings

end ContainerFleet
