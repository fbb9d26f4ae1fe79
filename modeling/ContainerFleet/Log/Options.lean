import ContainerFleet.Daemon.Call
import ContainerFleet.Decode.Record

/-!
# Options of a log read

Which lines of a container's log a reader asks for.  The request to the daemon
follows from the options and from whether the log is followed.
-/

namespace ContainerFleet
namespace Log

structure Options where
  follow : Bool
  timestamps : Bool
  since : Option String
  upTo : Option String
  tail : String
  details : Bool
  stdout : Bool
  stderr : Bool
  deriving DecidableEq, Repr

namespace Options

open Decode

/-- The last hundred lines of both outputs, with timestamps. -/
def default : Options := ⟨false, true, none, none, "100", false, true, true⟩

def decode (members : Members) : Checked Options :=
  Options.mk <$> withDefault members "follow" flag false
    <*> withDefault members "timestamps" flag true
    <*> withDefault members "since" (optional text) none
    <*> withDefault members "until" (optional text) none
    <*> withDefault members "tail" text "100"
    <*> withDefault members "details" flag false
    <*> withDefault members "show_stdout" flag true
    <*> withDefault members "show_stderr" flag true

/-- A bound that is left empty is no bound. -/
def bound (text : Option String) : Option String :=
  text.filter fun text => !text.isEmpty

/-- The request that the options make.  Without a count of lines all are asked
for. -/
def query (options : Options) (follow : Bool) : Daemon.LogQuery where
  stdout := options.stdout
  stderr := options.stderr
  timestamps := options.timestamps
  follow := follow
  details := options.details
  tail := if options.tail.isEmpty then "all" else options.tail
  since := bound options.since
  upTo := bound options.upTo

/-- The options of a read that ends: not followed, with timestamps. -/
def bounded (options : Options) : Options :=
  { options with follow := false, timestamps := true }

end Options
end Log
end ContainerFleet
