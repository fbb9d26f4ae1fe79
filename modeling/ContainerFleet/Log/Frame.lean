import ContainerFleet.Log.Entry
import ContainerFleet.Log.Source
import ContainerFleet.Text.Utf8

/-!
# Frames

Both outputs of a container share one stream.  A frame has a header of eight
octets: the number of the output, three octets that are ignored, and the
length of the payload, most significant octet first.
-/

namespace ContainerFleet
namespace Log

/-- Why a stream of frames was refused. -/
inductive FramingError where
  /-- The stream ended inside a header. -/
  | shortHeader (got : Nat)
  /-- The stream ended inside a payload. -/
  | shortPayload (got wanted : Nat)
  /-- The runtime reports an error in place of output. -/
  | runtime (text : String)
  /-- There is no output of this number. -/
  | unknownOutput (number : Nat)
  deriving DecidableEq, Repr

namespace FramingError

def message : FramingError → String
  | .shortHeader got => s!"truncated frame header: got {got} of 8 bytes"
  | .shortPayload got wanted => s!"truncated frame payload: got {got} of {wanted} bytes"
  | .runtime text => s!"runtime error: {text}"
  | .unknownOutput number => s!"unrecognized stream type {number} in frame header"

end FramingError

/-- How the reading of a stream can fail: by its source or by its format. -/
inductive StreamError where
  | peer (error : PeerError)
  | framing (error : FramingError)
  deriving DecidableEq, Repr

/-- A piece of one output. -/
structure Frame where
  output : Output
  payload : List UInt8
  deriving DecidableEq, Repr

namespace Frame

def headerSize : Nat := 8

/-- A number written in octets, most significant first. -/
def bigEndian (octets : List UInt8) : Nat :=
  octets.foldl (fun total octet => 256 * total + octet.toNat) 0

/-- The frame with a given output number and a complete payload.  Echoed
input, number zero, is shown with the standard output. -/
def ofParts (number : Nat) (payload : List UInt8) : Except FramingError Frame :=
  match number with
  | 0 => .ok ⟨.stdout, payload⟩
  | 1 => .ok ⟨.stdout, payload⟩
  | 2 => .ok ⟨.stderr, payload⟩
  | 3 => .error (.runtime (Text.trimmed (Utf8.decodeText payload)))
  | _ => .error (.unknownOutput number)

/-- Read so many octets, or say how the source failed. -/
def readOctets (source : ByteSource) (wanted : Nat) :
    Except StreamError (List UInt8 × ByteSource) :=
  (source.readExact wanted).mapError .peer

/-- The next frame of a stream, none at its end.  A short payload is an error
whatever the output number is. -/
def next (source : ByteSource) : Except StreamError (Option (Frame × ByteSource)) := do
  let (header, source) ← readOctets source headerSize
  if header.isEmpty then return none
  if header.length < headerSize then throw (.framing (.shortHeader header.length))
  let size := bigEndian (header.drop 4)
  let (payload, source) ← readOctets source size
  if payload.length < size then throw (.framing (.shortPayload payload.length size))
  match ofParts (bigEndian (header.take 1)) payload with
  | .ok frame => return some (frame, source)
  | .error error => throw (.framing error)

/-- The frames of a stream up to its end or its first error; `read` holds
those before, latest first.  Each frame is counted in `fuel`. -/
def readFrom : (fuel : Nat) → (read : List Frame) → ByteSource →
    List Frame × Option StreamError
  | 0, read, _ => (read.reverse, none)
  | fuel + 1, read, source =>
    match next source with
    | .error error => (read.reverse, some error)
    | .ok none => (read.reverse, none)
    | .ok (some (frame, source)) => readFrom fuel (frame :: read) source

/-- All frames of a stream up to its end or its first error. -/
def readAll (source : ByteSource) : List Frame × Option StreamError :=
  readFrom (source.octets.length + 1) [] source

end Frame
end Log
end ContainerFleet
