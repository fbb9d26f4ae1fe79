import ContainerFleet.CommandLine.Paint
import ContainerFleet.Log.Entry
import ContainerFleet.Number.Decimal
import ContainerFleet.Stats.Usage

/-!
# Lines for a reader

How log entries, usage figures and results of checks are shown, each on one
line.
-/

namespace ContainerFleet
namespace CommandLine

/-- The outcome of a check. -/
inductive Status where
  | ok
  | warning
  | error
  deriving DecidableEq, Repr

namespace Status

def mark : Status → String
  | .ok => "[OK]"
  | .warning => "[WARN]"
  | .error => "[ERROR]"

def colour : Status → Colour
  | .ok => .green
  | .warning => .yellow
  | .error => .red

end Status

/-- The width that the name of a check takes up where nothing else is said. -/
def checkWidth : Int := 40

/-- A check, its outcome and a remark; at least one blank follows the name. -/
def checkLine (coloured : Bool) (name : String) (status : Status) (message : String)
    (width : Int) : String :=
  let gap := (max 1 (width - name.length)).toNat
  name ++ ":" ++ String.ofList (List.replicate gap ' ') ++
    paint coloured status.colour status.mark ++ " " ++ message

def levelColour : Log.Level → Colour
  | .panic => .red
  | .fatal => .red
  | .error => .red
  | .warn => .yellow
  | .info => .green
  | .debug => .blue
  | .trace => .plain
  | .unknown => .plain

/-- A log entry; a row of dashes stands where it has no moment. -/
def entryLine (coloured : Bool) (entry : Log.Entry) : String :=
  let moment := match entry.timestamp with
    | some instant => instant.plainText
    | none => String.ofList (List.replicate 19 '-')
  moment ++ " " ++ paint coloured (levelColour entry.level) (padRight 7 entry.level.name) ++
    " [" ++ entry.output.name ++ "] " ++ entry.message

/-- A share with two places in a field of six characters. -/
def percentText (value : Float) : String :=
  String.ofList (Decimal.rightAligned 6 (Decimal.fixed 2 value))

/-- Usage figures; memory is shown in whole units of 1048576 octets. -/
def usageLine (usage : Stats.Usage) : String :=
  s!"{clip 12 usage.containerId}  cpu {percentText usage.cpuPercent}%  " ++
  s!"mem {percentText usage.memoryPercent}% ({usage.memoryUsage.fdiv 1048576} MiB)  " ++
  s!"net {usage.received}/{usage.sent} B  blk {usage.blockRead}/{usage.blockWritten} B  " ++
  s!"pids {usage.processes}"

end CommandLine
end ContainerFleet
