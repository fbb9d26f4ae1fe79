import ContainerFleet.Json.Build
import ContainerFleet.Settings.Basic

/-!
# Documents about settings

The documents in which settings are shown to a caller, each host with the way
in which it is reached.
-/

namespace ContainerFleet

open Json (ofList ofOption)

def Host.document (host : Host) : Json :=
  .object [("name", .text host.name), ("endpoint_uri", .text host.uri),
    ("transport", .text host.transport.name)]

def HostSettings.document (settings : HostSettings) : Json :=
  .object [("hosts", .text settings.hosts), ("timeout", .whole settings.timeout),
    ("use_ssh_client", .bool settings.sshProgram),
    ("descriptors", ofList Host.document settings.list)]

def AlertSettings.document (settings : AlertSettings) : Json :=
  .object [("enabled", .bool settings.enabled), ("cpu_threshold", .fraction settings.cpuThreshold),
    ("memory_threshold", .fraction settings.memoryThreshold),
    ("check_interval", .fraction settings.checkInterval),
    ("webhook_url", ofOption .text settings.webhookUrl),
    ("webhook_timeout", .fraction settings.webhookTimeout),
    ("history_size", .whole settings.historySize)]

def Settings.document (settings : Settings) : Json :=
  .object [("log_level", .text settings.logLevel), ("read_only", .bool settings.readOnly),
    ("docker", settings.hosts.document), ("alerts", settings.alerts.document)]

end ContainerFleet
