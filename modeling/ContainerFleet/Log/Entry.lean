import ContainerFleet.Json.Writer
import ContainerFleet.Log.Colour
import ContainerFleet.Log.Level
import ContainerFleet.Text.Utf8
import ContainerFleet.Timestamp.Extract

/-!
# Log entries

One line of a container's output with what was read out of it, and its
written form as one JSON object on a line of its own.
-/

namespace ContainerFleet
namespace Log

/-- The two outputs of a container. -/
inductive Output where
  | stdout
  | stderr
  deriving DecidableEq, Repr

namespace Output

def name : Output → String
  | .stdout => "stdout"
  | .stderr => "stderr"

end Output

/-- A line of output: its moment if it has one, its severity, the message
without moment and colours, and the line as it came. -/
structure Entry where
  timestamp : Option Instant
  level : Level
  message : String
  output : Output
  raw : String
  deriving DecidableEq, Repr

namespace Entry

/-- Read a line.  The only failure is a moment outside the calendar. -/
def ofLine (line : String) (output : Output) : Except RangeError Entry := do
  let (timestamp, rest) ← Timestamp.extract line.toList
  let message := cleanMessage rest
  return ⟨timestamp, detectLevel message, String.ofList message, output, line⟩

/-- The members of an entry's record, in the order in which they are written. -/
def members (entry : Entry) : List (String × Option String) :=
  [("timestamp", entry.timestamp.map fun instant => instant.isoText "Z"),
   ("level", some entry.level.name),
   ("message", some entry.message),
   ("stream", some entry.output.name),
   ("raw", some entry.raw)]

/-- The record of an entry, ended by a line feed. -/
def jsonLine (entry : Entry) : String :=
  String.ofList (Json.record entry.members ++ ['\n'])

/-- What is sent of an entry. -/
def octets (entry : Entry) : List UInt8 :=
  Utf8.encodeText entry.jsonLine

end Entry
end Log
end ContainerFleet
