import ContainerFleet.CommandLine.Commands
import ContainerFleet.CommandLine.Display
import ContainerFleet.CommandLine.Help
import ContainerFleet.Json.Shown
import ContainerFleet.Plane
import ContainerFleet.Settings.Load

/-!
# Running commands

What each command writes and how it ends.  A command connects the fleet, does
its work, and gives up the connections again.  Failures that the program
foresees become a line for the user and the exit code 1; what it does not
foresee ends the program as it is.
-/

namespace ContainerFleet
namespace CommandLine

open Daemon

/-- What was written to the two outputs, and the exit code, or else the fault
that ended the program. -/
structure Report where
  out : String
  err : String
  ending : Except Fault Int

/-- The last line on the error output that is not empty. -/
def Report.lastError (report : Report) : String :=
  let lines := (Text.linesOf report.err.toList).filter fun line => !line.isEmpty
  String.ofList (lines.getLast?.getD [])

/-- How the commands run: what holds for all of them. -/
structure Setting where
  settings : Settings
  /-- Whether the output takes colours. -/
  coloured : Bool
  now : Int

namespace Setting

variable (setting : Setting)

/-- A line in a colour. -/
def line (colour : Colour) (text : String) : String :=
  paint setting.coloured colour text ++ "\n"

/-- The line that tells the user about a failure. -/
def failureLine (text : String) : String :=
  setting.line .red ("✗ " ++ text)

/-- The end of a command that wrote `out` and then met a fault, or met none. -/
def conclude (out : String) : Option Fault → Report
  | none => ⟨out, "", .ok 0⟩
  | some fault =>
    if fault.isForeseen then ⟨out, setting.failureLine fault.message, .ok 1⟩
    else ⟨out, "", .error fault⟩

variable {σ : Type} (peers : Peers σ)

/-- Connect the fleet and work with it.  That a host cannot be reached is told
to the user. -/
def onPlane (work : Plane → Action σ Report) : Action σ Report := do
  match ← attempt (Plane.ofSettings peers setting.settings) with
  | .ok plane => work plane
  | .error fault => return setting.conclude "" (some fault)

/-- Whether a host can be connected, and what is said of it. -/
def checkHost (host : Host) : Action σ (Status × String) := do
  let options : Connect.Options :=
    ⟨setting.settings.hosts.timeout, setting.settings.hosts.sshProgram⟩
  match ← attempt (Connect.connectAll peers options [host]) with
  | .ok _ =>
    closeClient peers host
    return (.ok, s!"reachable via {host.transport.name}")
  | .error (.hostUnreachable _ _ cause) => return (.error, cause.message)
  | .error fault => throw fault

/-- The head of the report on all hosts. -/
def doctorHead : String :=
  setting.line .bold "\nfleetdock Doctor" ++
    setting.line .bold (String.ofList (List.replicate 60 '=')) ++ "\n"

/-- The line about one host. -/
def hostLine (host : Host) (check : Status × String) : String :=
  checkLine setting.coloured s!"{host.name} ({host.uri})" check.1 check.2 checkWidth ++ "\n"

/-- The lines about the settings. -/
def settingLines : String :=
  let mode := if setting.settings.readOnly then "read-only" else "read-write"
  let (status, alerts) :=
    if setting.settings.alerts.enabled then (Status.ok, "enabled")
    else (Status.warning, "disabled")
  checkLine setting.coloured "Mode" .ok mode checkWidth ++ "\n" ++
    checkLine setting.coloured "Alerts" status alerts checkWidth ++ "\n\n"

/-- The report on hosts that have been checked. -/
def doctorReport (checks : List (Host × (Status × String))) : Report :=
  let reachable := checks.all fun check => check.2.1 == .ok
  let summary :=
    if reachable then setting.line .green "✓ All hosts reachable"
    else setting.line .red "✗ One or more hosts unreachable"
  ⟨setting.doctorHead ++ String.join (checks.map fun check => setting.hostLine check.1 check.2) ++
      setting.settingLines ++ summary, "", .ok (if reachable then 0 else 1)⟩

/-- Check every configured host. -/
def doctor : Action σ Report := do
  let hosts := setting.settings.hosts.list
  match ← attempt (hosts.mapM fun host => setting.checkHost peers host) with
  | .error fault => return ⟨setting.doctorHead, "", .error fault⟩
  | .ok checks => return setting.doctorReport (hosts.zip checks)

/-- One row of the table of containers. -/
def containerRow (host id name image status : String) : String :=
  " ".intercalate [padRight 12 host, padRight 14 id, padRight 28 name, padRight 30 image,
    status] ++ "\n"

/-- The rows of the containers of one host that are to be shown. -/
def containerRows (all : Bool) (host : String) (containers : List Container) : String :=
  String.join <| (containers.filter fun container => all || container.running).map
    fun container => containerRow host (clip 12 container.id) (clip 28 container.name)
      (clip 30 container.image) container.status

/-- The table of containers; hosts are in the order of their names, those that
could not be asked are told of at the end. -/
def psReport (all : Bool) (listing : Fleet.Gathered (List Container)) : Report :=
  let rows := (listing.results.mergeSort fun first second => first.1 ≤ second.1).map
    fun (host, containers) => containerRows all host containers
  ⟨containerRow "HOST" "CONTAINER ID" "NAME" "IMAGE" "STATUS" ++ String.join rows,
    String.join (listing.faults.map fun (host, fault) =>
      setting.failureLine s!"{host}: {fault.message}"),
    .ok (if listing.faults.isEmpty then 0 else 1)⟩

/-- List the containers of all hosts. -/
def ps (all : Bool) : Action σ Report :=
  setting.onPlane peers fun plane => do
    let listing ← plane.fleet.gather (listContainers peers · true)
    let _ ← plane.stop peers
    return setting.psReport all listing

/-- An entry on a line, for a reader or as a record. -/
def entryText (json : Bool) (entry : Log.Entry) : String :=
  if json then entry.jsonLine else entryLine setting.coloured entry ++ "\n"

/-- The end of a command whose items came as a stream, or did not come. -/
def streamReport {α : Type} (text : α → String) : Except Fault (Streamed Fault α) → Report
  | .ok streamed => setting.conclude (String.join (streamed.items.map text)) streamed.fault
  | .error fault => setting.conclude "" (some fault)

/-- The options that a wish makes for reading a log. -/
def logOptions (wish : LogsWish) : Decode.Checked Log.Options :=
  Log.Options.decode ([("tail", wish.tail.document), ("follow", .bool wish.follow)] ++
    wish.since.toList.map fun since => ("since", since.document))

/-- The entries that a wish asks for. -/
def readLog (fleet : Fleet) (wish : LogsWish) (options : Log.Options) :
    Action σ (Streamed Fault Log.Entry) := do
  let host ← ofExcept .shape wish.host.asName
  let container := wish.container.document.shown
  if wish.follow then Log.follow peers fleet host container options none
  else return ⟨← Log.fetch peers fleet host container options, none⟩

/-- Show the log of one container. -/
def logs (wish : LogsWish) : Action σ Report :=
  setting.onPlane peers fun plane => do
    match logOptions wish with
    | .failed issues => return ⟨"", "", .error (.invalid issues)⟩
    | .ok options =>
      let outcome ← attempt (readLog peers plane.fleet wish options)
      let _ ← plane.stop peers
      return setting.streamReport (setting.entryText wish.json) outcome

/-- After how many figures to stop: never where the count is zero, after the
first where it is negative. -/
def figureLimit (count : Int) : Option Nat :=
  if count = 0 then none else some (max 1 count).toNat

/-- Figures as they belong to a container, which has to be named by a text. -/
def figuresOf (container : Word) (figures : Streamed Fault Stats.Usage) :
    Streamed Fault Stats.Usage :=
  match container with
  | .text _ => figures
  | .nothing =>
    if figures.items.isEmpty then figures
    else ⟨[], some (.invalid [⟨[.key "container_id"], .notText⟩])⟩

/-- The figures of one container, once or up to a number of them. -/
def readFigures (fleet : Fleet) (host container : Word) (once : Bool) (count : Int) :
    Action σ (Streamed Fault Stats.Usage) := do
  let host ← ofExcept .shape host.asName
  let id := container.document.shown
  if once then return figuresOf container ⟨[← Stats.once peers fleet host id], none⟩
  else return figuresOf container (← Stats.follow peers fleet host id (figureLimit count))

/-- Show the usage figures of one container. -/
def stats (host container : Word) (once : Bool) (count : Int) : Action σ Report :=
  setting.onPlane peers fun plane => do
    let outcome ← attempt (readFigures peers plane.fleet host container once count)
    let _ ← plane.stop peers
    return setting.streamReport (fun usage => usageLine usage ++ "\n") outcome

/-- An alert with the time at which it was raised. -/
def alertLine (alert : Alert) : Except Fault String := do
  let clock ← (clockAt alert.timestamp).mapError .range
  let digits := fun number => String.ofList (Digits.padded 2 number)
  let time := s!"{digits clock.hour}:{digits clock.minute}:{digits clock.second}"
  return setting.line .yellow (s!"[{time}] {padRight 18 alert.kind.name} " ++
    s!"{alert.host}/{alert.containerName}: {alert.message}")

/-- Scan a number of times; what was written, and the fault that ended the
scans, if any. -/
def scans (fleet : Fleet) : Nat → Alert.Monitor →
    Action σ (Alert.Monitor × String × Option Fault)
  | 0, monitor => return (monitor, "", none)
  | rounds + 1, monitor => do
    let (monitor, alerts) ← monitor.checkAndAnnounce peers fleet setting.now
    match alerts.mapM fun alert => setting.alertLine alert with
    | .error fault => return (monitor, "", some fault)
    | .ok lines =>
      let (monitor, text, fault) ← scans fleet rounds monitor
      return (monitor, String.join lines ++ text, fault)

/-- The settings for watching: alerts are enabled, and an interval that is
given counts, unless it is zero. -/
def watching (interval : Option Float) : Setting :=
  let alerts := setting.settings.alerts
  let seconds := match interval with
    | some seconds => if seconds == 0.0 then alerts.checkInterval else seconds
    | none => alerts.checkInterval
  { setting with settings := { setting.settings with
      alerts := { alerts with enabled := true, checkInterval := seconds } } }

/-- Watch the fleet for a number of scans and tell about every alert. -/
def monitor (rounds : Nat) : Action σ Report :=
  setting.onPlane peers fun plane => do
    match plane.monitor with
    | none => return setting.conclude "" none
    | some monitor =>
      let (monitor, text, fault) ← setting.scans peers plane.fleet rounds monitor
      let _ ← plane.stop peers
      let out := setting.line .bold s!"Monitoring {plane.fleet.hosts.length} host(s)..." ++ text ++
        s!"{monitor.history.pending} unacknowledged alert(s)\n"
      match fault with
      | none => return ⟨out, "", .ok 0⟩
      | some fault => return ⟨out, "", .error fault⟩

/-- Do what a command says.  `unlimited` is the number of scans of a monitor
that is not told how many to make. -/
def run (unlimited : Nat) : Command → Action σ Report
  | .doctor => setting.doctor peers
  | .ps all => setting.ps peers all
  | .logs wish => setting.logs peers wish
  | .stats host container once count => setting.stats peers host container once count
  | .monitor ticks interval =>
    (setting.watching interval).monitor peers (if ticks = 0 then unlimited else ticks.toNat)
  | .version => return versionReport
where
  versionReport : Report :=
    ⟨s!"fleetctl version {version}\n" ++
      "fleetdock - multi-host container control and telemetry plane\n", "", .ok 0⟩

end Setting

/-- What is written where words were not understood, or help was asked for. -/
def Stop.report : Stop → Report
  | .help none => ⟨program.page, "", .ok 0⟩
  | .help (some form) => ⟨form.page program, "", .ok 0⟩
  | .mistake none cause =>
    ⟨"", program.usage ++ s!"{program.name}: error: {cause.message}\n", .ok 2⟩
  | .mistake (some form) cause =>
    ⟨"", form.usage program ++ s!"{form.fullName program}: error: {cause.message}\n", .ok 2⟩

/-- Where a program is started: what was typed, the environment, whether the
output takes colours, and the time. -/
structure Call where
  words : List String
  environment : Variables
  coloured : Bool
  now : Int

variable {σ : Type}

/-- Run a command under the settings of the environment, read with so many
levels; the version needs none. -/
def Call.runCommand (call : Call) (peers : Peers σ) (unlimited levels : Nat)
    (command : Command) : Action σ Report := do
  match command, Settings.loadInGroups call.environment [] [] [] levels with
  | .version, _ => return Setting.run.versionReport
  | _, .ok settings => (⟨settings, call.coloured, call.now⟩ : Setting).run peers unlimited command
  | _, .error fault => return ⟨"", "", .error fault⟩

/-- Run the program.  Without a command its help is shown. -/
def Call.run (call : Call) (peers : Peers σ) (unlimited : Nat)
    (levels : Nat := Json.Reader.usualLevels) : Action σ Report :=
  match program.read call.words with
  | .error stop => return stop.report
  | .ok request =>
    match request.toCommand with
    | none => return (Stop.help none).report
    | some command => call.runCommand peers unlimited levels command

end CommandLine
end ContainerFleet
