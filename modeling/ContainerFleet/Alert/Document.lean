import ContainerFleet.Alert.Monitor
import ContainerFleet.Json.Build

/-!
# Documents about alerts

The documents in which alerts and the way they are set up are handed to a
caller; unlike in an announcement, absent values are null.
-/

namespace ContainerFleet

open Json (ofOption)

def Alert.document (alert : Alert) : Json :=
  .object [("id", .text alert.id), ("type", .text alert.kind.name),
    ("container_id", .text alert.containerId), ("container_name", .text alert.containerName),
    ("host", .text alert.host), ("message", .text alert.message),
    ("value", ofOption .fraction alert.value), ("threshold", ofOption .fraction alert.threshold),
    ("timestamp", .whole alert.timestamp), ("acknowledged", .bool alert.acknowledged)]

def Alert.SettingsView.document (view : Alert.SettingsView) : Json :=
  .object [("enabled", .bool view.enabled), ("cpu_threshold", .fraction view.cpuThreshold),
    ("memory_threshold", .fraction view.memoryThreshold),
    ("check_interval", .text view.checkInterval), ("webhook_enabled", .bool view.announces)]

end ContainerFleet
