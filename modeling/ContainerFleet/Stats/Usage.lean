import ContainerFleet.Calendar.UnixTime
import ContainerFleet.Json.Build
import ContainerFleet.Stats.Snapshot
import ContainerFleet.Timestamp.Candidate

/-!
# Usage figures

What a container uses at one instant, derived from a raw snapshot.  Shares
are percentages; octet counts are sums since the container started.
-/

namespace ContainerFleet
namespace Stats

/-- Resource usage of one container at one instant. -/
structure Usage where
  containerId : String
  host : String
  cpuPercent : Float
  memoryUsage : Int
  memoryLimit : Int
  memoryPercent : Float
  received : Int
  sent : Int
  blockRead : Int
  blockWritten : Int
  processes : Int
  timestamp : Int
  deriving Repr

/-- What some counters come to together. -/
def total (counts : List Int) : Int :=
  counts.foldr (· + ·) 0

namespace Snapshot

/-- The count of processors, taken from the list of processors where the
snapshot reports none online. -/
def processors (snapshot : Snapshot) : Int :=
  if snapshot.cpu.online = 0 then ((snapshot.cpu.usage.perProcessor.getD []).length : Int)
  else snapshot.cpu.online

/-- The share of processor time between two samples, counted for each
processor; zero unless both the container's and the system's time have grown. -/
def cpuPercent (snapshot : Snapshot) : Except RangeError Float := do
  let used := snapshot.cpu.usage.total - snapshot.previousCpu.usage.total
  let passed := snapshot.cpu.system - snapshot.previousCpu.system
  if used ≤ 0 ∨ passed ≤ 0 then return 0.0
  let share ← Binary64.divide used passed.natAbs
  let processors ← Binary64.ofInt snapshot.processors
  return share * processors * 100.0

/-- The share of the memory limit that is used; zero without a limit. -/
def memoryPercent (snapshot : Snapshot) : Except RangeError Float := do
  if snapshot.memory.limit ≤ 0 then return 0.0
  let share ← Binary64.divide snapshot.memory.usage snapshot.memory.limit.natAbs
  return share * 100.0

/-- Octets received, over all interfaces. -/
def received (snapshot : Snapshot) : Int :=
  total ((snapshot.networks.getD []).map fun entry => entry.2.received)

/-- Octets sent, over all interfaces. -/
def sent (snapshot : Snapshot) : Int :=
  total ((snapshot.networks.getD []).map fun entry => entry.2.sent)

/-- Octets moved by the block operations of one name, in any letter case. -/
def blockOctets (snapshot : Snapshot) (operation : String) : Int :=
  total <| ((snapshot.blocks.getD []).filter fun counter =>
    counter.operation.toList.map Char.toLower == operation.toList).map BlockCounter.octets

/-- The second at which the snapshot was read; zero where it does not say. -/
def timestamp (snapshot : Snapshot) : Except RangeError Int := do
  match ← Timestamp.ofCandidate snapshot.read.toList with
  | some instant => return instant.unixSeconds
  | none => return 0

/-- The figures of one snapshot. -/
def usage (snapshot : Snapshot) (containerId host : String) : Except RangeError Usage := do
  let cpuPercent ← snapshot.cpuPercent
  let memoryPercent ← snapshot.memoryPercent
  let timestamp ← snapshot.timestamp
  return {
    containerId := containerId
    host := host
    cpuPercent := cpuPercent
    memoryUsage := snapshot.memory.usage
    memoryLimit := snapshot.memory.limit
    memoryPercent := memoryPercent
    received := snapshot.received
    sent := snapshot.sent
    blockRead := snapshot.blockOctets "read"
    blockWritten := snapshot.blockOctets "write"
    processes := snapshot.processes
    timestamp := timestamp }

end Snapshot

/-- Why a statistics document gave no figures. -/
inductive UsageError where
  | invalid (issues : List Decode.Issue)
  | range (error : RangeError)
  deriving DecidableEq, Repr

/-- The figures of a statistics document. -/
def usageOf (document : Json) (containerId host : String) : Except UsageError Usage := do
  match Snapshot.decode document with
  | .failed issues => throw (.invalid issues)
  | .ok snapshot => (snapshot.usage containerId host).mapError .range

/-- The document in which figures are handed to a caller. -/
def Usage.document (usage : Usage) : Json :=
  .object [("container_id", .text usage.containerId), ("host", .text usage.host),
    ("cpu_percent", .fraction usage.cpuPercent), ("memory_usage", .whole usage.memoryUsage),
    ("memory_limit", .whole usage.memoryLimit), ("memory_percent", .fraction usage.memoryPercent),
    ("network_rx", .whole usage.received), ("network_tx", .whole usage.sent),
    ("block_read", .whole usage.blockRead), ("block_write", .whole usage.blockWritten),
    ("pids", .whole usage.processes), ("timestamp", .whole usage.timestamp)]

end Stats
end ContainerFleet
