import ContainerFleet.CommandLine.Understand
import ContainerFleet.Json.Access

/-!
# The commands of the program

What can be done from a terminal: check the hosts, list containers, read the
log or the usage figures of one container, and watch the fleet.
-/

namespace ContainerFleet
namespace CommandLine

/-- The version that the program reports. -/
def version : String := "0.3.0"

def doctorForm : Form where
  name := "doctor"
  help := "Check connectivity to every configured host"
  places := []
  choices := []

def psForm : Form where
  name := "ps"
  help := "List containers across hosts"
  places := []
  choices := [.switch (some 'a') "all" "Include stopped containers"]

/-- The host and the container that a command is about. -/
def containerPlaces : List Place :=
  [⟨"host", "Host name"⟩, ⟨"container", "Container ID or name"⟩]

def logsForm : Form where
  name := "logs"
  help := "Show parsed logs of a container"
  places := containerPlaces
  choices :=
    [.setting "tail" .text (.text "100")
       "Number of lines from the end of the logs, or 'all' (default: 100)",
     .setting "since" .text .absent "Only logs since this timestamp or relative duration",
     .switch (some 'f') "follow" "Follow log output",
     .switch none "json" "Print newline-delimited JSON"]

def statsForm : Form where
  name := "stats"
  help := "Show resource usage of a container"
  places := containerPlaces
  choices :=
    [.switch none "once" "Print a single snapshot and exit",
     .setting "count" .whole (.whole 0) "Stop after this many snapshots (default: unlimited)"]

def monitorForm : Form where
  name := "monitor"
  help := "Run alert scans in the foreground"
  places := []
  choices :=
    [.setting "ticks" .whole (.whole 0) "Number of scans to run (default: until interrupted)",
     .setting "interval" .fraction .absent
       "Seconds between scans (default: ALERTS_CHECK_INTERVAL)"]

def versionForm : Form where
  name := "version"
  help := "Show version information"
  places := []
  choices := []

/-- The lines at the end of the program's help. -/
def closingLines : List String :=
  ["Examples:",
   "  fleetctl doctor                    # Check every configured host",
   "  fleetctl ps -a                     # All containers on all hosts",
   "  fleetctl logs local web --follow   # Follow parsed logs",
   "  fleetctl stats local web --once    # One stats snapshot",
   "  fleetctl monitor --ticks 3         # Run three alert scans",
   "  fleetctl version                   # Show version information",
   "",
   "Environment variables:",
   "  DOCKER_HOSTS                       # name=uri pairs " ++
     "(default: local=unix:///var/run/docker.sock)",
   "  ALERTS_CPU_THRESHOLD               # CPU alert threshold in percent (default: 80)",
   "  ALERTS_MEMORY_THRESHOLD            # Memory alert threshold in percent (default: 90)",
   "  ALERTS_WEBHOOK_URL                 # Webhook for new alerts (optional)",
   "  LOG_LEVEL                          # Logging level (default: INFO)",
   "        ",
   ""]

def program : Program where
  name := "fleetctl"
  description := "fleetdock operational CLI"
  closing := "\n".intercalate closingLines
  command := ⟨"command", "Command to run"⟩
  forms := [doctorForm, psForm, logsForm, statsForm, monitorForm, versionForm]

/-- A word that a command needs.  A separator can stand in the place of a word,
and then nothing is left of it. -/
inductive Word where
  | text (value : String)
  | nothing
  deriving DecidableEq, Repr

namespace Word

/-- What a word says: its text, or an empty list. -/
def document : Word → Json
  | .text value => .text value
  | .nothing => .array []

/-- A word as the name of something; an empty list cannot be looked up. -/
def asName : Word → Except ShapeError String
  | .text value => .ok value
  | .nothing => .error (.notKey .array)

end Word

/-- Which part of a container's log to show, and how. -/
structure LogsWish where
  host : Word
  container : Word
  tail : Word
  since : Option Word
  follow : Bool
  json : Bool
  deriving DecidableEq, Repr

/-- What to do. -/
inductive Command where
  | doctor
  | ps (all : Bool)
  | logs (wish : LogsWish)
  | stats (host container : Word) (once : Bool) (count : Int)
  | monitor (ticks : Int) (interval : Option Float)
  | version
  deriving Repr

namespace Request

def value (request : Request) (name : String) : Value :=
  (request.values.lookup name).getD .absent

def flag (request : Request) (name : String) : Bool :=
  match request.value name with
  | .flag value => value
  | _ => false

/-- A number; zero where nothing is left of the word. -/
def whole (request : Request) (name : String) : Int :=
  match request.value name with
  | .whole value => value
  | _ => 0

def fraction? (request : Request) (name : String) : Option Float :=
  match request.value name with
  | .fraction value => some value
  | _ => none

/-- A word, if there is one. -/
def word? (request : Request) (name : String) : Option Word :=
  match request.value name with
  | .text value => some (.text value)
  | .nothing => some .nothing
  | _ => none

def word (request : Request) (name : String) : Word :=
  (request.word? name).getD (.text "")

/-- What a request asks to do, if it names a command. -/
def toCommand (request : Request) : Option Command :=
  request.command.map fun name =>
    if name = psForm.name then .ps (request.flag "all")
    else if name = logsForm.name then
      .logs {
        host := request.word "host"
        container := request.word "container"
        tail := request.word "tail"
        since := request.word? "since"
        follow := request.flag "follow"
        json := request.flag "json" }
    else if name = statsForm.name then
      .stats (request.word "host") (request.word "container") (request.flag "once")
        (request.whole "count")
    else if name = monitorForm.name then
      .monitor (request.whole "ticks") (request.fraction? "interval")
    else if name = versionForm.name then .version
    else .doctor

end Request
end CommandLine
end ContainerFleet
