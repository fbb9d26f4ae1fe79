import ContainerFleet.Log.Frame
import ContainerFleet.Log.LineBuffer

/-!
# Entries of a framed stream

Each output has a line buffer of its own, so a line is not broken by a frame
of the other output that comes in between.  When the stream ends, cleanly or
not, what the buffers still hold is delivered before any failure is passed on.
-/

namespace ContainerFleet
namespace Log

/-- How the reading of entries can fail. -/
inductive Failure where
  | peer (error : PeerError)
  | framing (error : FramingError)
  | range (error : RangeError)
  deriving DecidableEq, Repr

namespace Failure

def ofStream : StreamError → Failure
  | .peer error => .peer error
  | .framing error => .framing error

end Failure

/-- The entries that a stream delivered and the failure that ended it, if any. -/
structure Delivery where
  entries : List Entry
  failure : Option Failure
  deriving DecidableEq, Repr

namespace Demux

/-- Read a line of one output and put the entry in front of those delivered. -/
def receive (output : Output) : LineBuffer.Receiver Failure (List Entry) := fun line entries =>
  match Entry.ofLine line output with
  | .ok entry => .ok () (entry :: entries)
  | .error error => .error (.range error) entries

/-- The line buffers of the two outputs and the entries delivered so far,
latest first. -/
structure State where
  stdout : LineBuffer
  stderr : LineBuffer
  delivered : List Entry
  deriving DecidableEq, Repr

namespace State

def start : State := ⟨.empty, .empty, []⟩

/-- The buffer of one output. -/
def buffer (state : State) : Output → LineBuffer
  | .stdout => state.stdout
  | .stderr => state.stderr

/-- Put back the buffer of one output together with what has been delivered. -/
def update (state : State) (output : Output) (buffer : LineBuffer) (delivered : List Entry) :
    State :=
  match output with
  | .stdout => { state with stdout := buffer, delivered := delivered }
  | .stderr => { state with stderr := buffer, delivered := delivered }

/-- Take over the outcome of a step on the buffer of one output. -/
def settle (state : State) (output : Output) :
    LineBuffer × EStateM.Result Failure (List Entry) Unit → State × Option Failure
  | (buffer, .ok () delivered) => (state.update output buffer delivered, none)
  | (buffer, .error failure delivered) => (state.update output buffer delivered, some failure)

/-- Take in one frame. -/
def write (state : State) (frame : Frame) : State × Option Failure :=
  state.settle frame.output
    ((state.buffer frame.output).write (receive frame.output) frame.payload state.delivered)

/-- Deliver what the buffer of one output still holds. -/
def flush (state : State) (output : Output) : State × Option Failure :=
  state.settle output ((state.buffer output).flush (receive output) state.delivered)

end State

/-- Take in frames one after another up to the first failure. -/
def writeAll : State → List Frame → State × Option Failure
  | state, [] => (state, none)
  | state, frame :: later =>
    match state.write frame with
    | (state, none) => writeAll state later
    | (state, some failure) => (state, some failure)

/-- Deliver what both buffers still hold.  A failure on the way takes the
place of the one that ended the stream and ends the delivery. -/
def finish (state : State) (failure : Option Failure) : State × Option Failure :=
  match state.flush .stdout with
  | (state, some later) => (state, some later)
  | (state, none) =>
    match state.flush .stderr with
    | (state, some later) => (state, some later)
    | (state, none) => (state, failure)

/-- The entries of a stream of frames that ended with `ending`. -/
def ofFrames (frames : List Frame) (ending : Option StreamError) : Delivery :=
  let (state, failure) := writeAll .start frames
  let (state, failure) := finish state (failure.or (ending.map Failure.ofStream))
  ⟨state.delivered.reverse, failure⟩

/-- The entries of a source. -/
def run (source : ByteSource) : Delivery :=
  let (frames, ending) := Frame.readAll source
  ofFrames frames ending

end Demux
end Log
end ContainerFleet
