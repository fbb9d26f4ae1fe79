import ContainerFleet.CommandLine.Run
import ContainerFleet.Daemon.Script
import Std.Time.DateTime

/-!
# The program

Reads the words of the command line and the environment, runs the command and
writes its report.  The program has no network of its own: its daemons are
those of a script without entries, so that no host can be reached.
-/

namespace ContainerFleet
namespace Program

/-- The variables that settings are read from. -/
def variableNames : List String :=
  HostSettings.fields.map ("docker_" ++ ·) ++ AlertSettings.fields.map ("alerts_" ++ ·) ++
    ["log_level", "readonly_mode", "read_only", Settings.hostGroup, Settings.alertGroup]

/-- The variables that are set, each under its name in small or in capital
letters. -/
def environment : IO Variables := do
  let names := variableNames ++ variableNames.map Text.capitals
  let found ← names.mapM fun name => return (← IO.getEnv name).map fun value => (name, value)
  return found.filterMap id

/-- The second at which the program runs. -/
def secondNow : IO Int := do
  return (← Std.Time.Timestamp.now).toSecondsSinceUnixEpoch.val

/-- Write what a command wrote; the exit code. -/
def writeReport (report : CommandLine.Report) : IO UInt32 := do
  IO.print report.out
  IO.eprint report.err
  match report.ending with
  | .ok code => return UInt32.ofNat code.toNat
  | .error fault =>
    IO.eprintln fault.message
    return 1

end Program
end ContainerFleet

open ContainerFleet in
/-- Run the program with the words behind its name. -/
def main (words : List String) : IO UInt32 := do
  let coloured ← (← IO.getStdout).isTty
  let call : CommandLine.Call := ⟨words, ← Program.environment, coloured, ← Program.secondNow⟩
  let action := call.run Daemon.Stage.peers 0 Json.Reader.usualLevels
  match action (.start (.start [] [])) with
  | .ok report _ => Program.writeReport report
  | .error fault _ =>
    IO.eprintln fault.message
    return 1
