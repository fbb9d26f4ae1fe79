import ContainerFleet.Alert.Basic
import ContainerFleet.Fault
import ContainerFleet.Inventory.Container
import ContainerFleet.Number.Decimal
import ContainerFleet.Settings.Basic
import ContainerFleet.Stats.Usage

/-!
# What a monitor remembers

Whether each container ran when its host last answered, and which figures
were above their threshold.  Taking in a listing or a figure changes the
memory and gives a notice for each change that it shows: a container that
started or stopped, a figure that rose above its threshold.  What a host does
not answer leaves its part of the memory as it was.
-/

namespace ContainerFleet
namespace Alert

/-- The figures that have a threshold. -/
inductive Measure where
  | cpu
  | memory
  deriving DecidableEq, Repr

namespace Measure

def kind : Measure → Alert.Kind
  | .cpu => .cpu
  | .memory => .memory

def label : Measure → String
  | .cpu => "CPU"
  | .memory => "Memory"

/-- The figure itself. -/
def of (measure : Measure) (usage : Stats.Usage) : Float :=
  match measure with
  | .cpu => usage.cpuPercent
  | .memory => usage.memoryPercent

/-- The threshold that the settings give for the figure. -/
def threshold (measure : Measure) (settings : AlertSettings) : Float :=
  match measure with
  | .cpu => settings.cpuThreshold
  | .memory => settings.memoryThreshold

end Measure

/-- An alert before it has an id and a time. -/
structure Notice where
  kind : Alert.Kind
  containerId : String
  containerName : String
  host : String
  message : String
  value : Option Float
  threshold : Option Float
  deriving Repr

/-- The alert that a notice becomes. -/
def Notice.alert (notice : Notice) (id : String) (now : Int) : Alert where
  id := id
  kind := notice.kind
  containerId := notice.containerId
  containerName := notice.containerName
  host := notice.host
  message := notice.message
  value := notice.value
  threshold := notice.threshold
  timestamp := now
  acknowledged := false

/-- What a monitor remembers between scans. -/
structure Memory where
  /-- Whether each container of each host ran when the host last answered. -/
  running : Table (String × String) Bool
  /-- The figures that were above their threshold, by host, container and measure. -/
  above : List (String × String × Measure)
  deriving DecidableEq, Repr

namespace Memory

def empty : Memory := ⟨[], []⟩

/-- Forget that figures of a container were above their threshold. -/
def rearm (memory : Memory) (host id : String) : Memory :=
  { memory with above := memory.above.filter fun (aboveHost, aboveId, _) =>
      !(aboveHost = host && aboveId = id) }

/-- The notice that a container now runs or does not run. -/
def changeNotice (host : String) (container : Container) : Notice where
  kind := if container.running then .started else .stopped
  containerId := container.id
  containerName := container.name
  host := host
  message :=
    if container.running then s!"Container {container.name} started"
    else
      let reason := if container.status.isEmpty then container.state else container.status
      s!"Container {container.name} stopped ({reason})"
  value := none
  threshold := none

/-- Note one listed container; a notice where it did the opposite before. -/
def observe (memory : Memory) (host : String) (container : Container) :
    Memory × List Notice :=
  let previous := memory.running.get? (host, container.id)
  let noted := { memory with running := memory.running.set (host, container.id) container.running }
  let noted := if container.running then noted else noted.rearm host container.id
  (noted, if previous = some (!container.running) then [changeNotice host container] else [])

/-- Note the listed containers one after another. -/
def observeAll (host : String) : Memory → List Container → Memory × List Notice
  | memory, [] => (memory, [])
  | memory, container :: later =>
    let (memory, notices) := memory.observe host container
    let (memory, rest) := observeAll host memory later
    (memory, notices ++ rest)

/-- The remembered containers of a host that its listing does not have. -/
def vanished (memory : Memory) (host : String) (containers : List Container) : List String :=
  (memory.running.keys.filter fun (keyHost, id) =>
    keyHost == host && !(containers.any fun container => container.id == id)).map Prod.snd

/-- Forget a container. -/
def forget (host : String) (memory : Memory) (id : String) : Memory :=
  { memory with running := memory.running.erase (host, id) }.rearm host id

/-- Take in the listing of a host that answered. -/
def takeListing (memory : Memory) (host : String) (containers : List Container) :
    Memory × List Notice :=
  let (memory, notices) := observeAll host memory containers
  ((memory.vanished host containers).foldl (forget host) memory, notices)

/-- The notice that a figure is above its threshold. -/
def thresholdNotice (measure : Measure) (host name id : String) (value threshold : Float) :
    Notice where
  kind := measure.kind
  containerId := id
  containerName := name
  host := host
  message := s!"{measure.label} usage {String.ofList (Decimal.fixed 1 value)}% exceeds " ++
    s!"threshold {String.ofList (Decimal.fixed 1 threshold)}%"
  value := some value
  threshold := some threshold

/-- Compare one figure with its threshold; a notice when it is above and was
not before. -/
def compare (memory : Memory) (settings : AlertSettings) (host name : String)
    (usage : Stats.Usage) (measure : Measure) : Memory × List Notice :=
  let key := (host, usage.containerId, measure)
  let value := measure.of usage
  let threshold := measure.threshold settings
  if value ≤ threshold then
    ({ memory with above := memory.above.filter (· ≠ key) }, [])
  else if memory.above.contains key then (memory, [])
  else
    ({ memory with above := memory.above ++ [key] },
      [thresholdNotice measure host name usage.containerId value threshold])

/-- The name of a container in a listing, or the beginning of its id. -/
def nameIn (containers : List Container) (id : String) : String :=
  match containers.reverse.find? fun container => container.id == id with
  | some container => container.name
  | none => String.ofList (id.toList.take 12)

/-- Compare both figures of a container with their thresholds. -/
def takeUsage (memory : Memory) (settings : AlertSettings) (host : String)
    (containers : List Container) (usage : Stats.Usage) : Memory × List Notice :=
  let name := nameIn containers usage.containerId
  let (memory, cpu) := memory.compare settings host name usage .cpu
  let (memory, rest) := memory.compare settings host name usage .memory
  (memory, cpu ++ rest)

/-- Compare the figures of a host's containers with their thresholds. -/
def takeSweep (settings : AlertSettings) (host : String) (containers : List Container) :
    Memory → List Stats.Usage → Memory × List Notice
  | memory, [] => (memory, [])
  | memory, usage :: later =>
    let (memory, notices) := memory.takeUsage settings host containers usage
    let (memory, rest) := takeSweep settings host containers memory later
    (memory, notices ++ rest)

/-- Take in the listings of all hosts that answered. -/
def takeListings : Memory → Table String (List Container) → Memory × List Notice
  | memory, [] => (memory, [])
  | memory, (host, containers) :: later =>
    let (memory, notices) := memory.takeListing host containers
    let (memory, rest) := takeListings memory later
    (memory, notices ++ rest)

/-- Take in the figures of all hosts, each with the listing before it; a host
whose figures could not be had changes nothing. -/
def takeSweeps (settings : AlertSettings) :
    Memory → List (String × List Container × Except Fault (List Stats.Usage)) →
      Memory × List Notice
  | memory, [] => (memory, [])
  | memory, (_, _, .error _) :: later => takeSweeps settings memory later
  | memory, (host, containers, .ok usages) :: later =>
    let (memory, notices) := takeSweep settings host containers memory usages
    let (memory, rest) := takeSweeps settings memory later
    (memory, notices ++ rest)

end Memory

end Alert
end ContainerFleet
