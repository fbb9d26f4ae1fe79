import ContainerFleet.Log.Frame

/-!
# Frames as octets

The written form of frames and, beside the reader that asks a source for
pieces, the division of octets that are all there: as many complete packets as
stand at the front, and what is left behind them.  What a reader makes of a
stream follows from the division alone, however the source cuts it.
-/

namespace ContainerFleet
namespace Log
namespace Wire

/-- A frame before its number is looked at. -/
structure Packet where
  number : UInt8
  /-- The three octets that are ignored. -/
  filler : UInt8 × UInt8 × UInt8
  payload : List UInt8
  deriving DecidableEq, Repr

/-- One octet of a number, the `place`-th counted from the least significant. -/
def octetOf (place number : Nat) : UInt8 :=
  UInt8.ofNat (number >>> (8 * place))

/-- A number of up to 32 bits in four octets, most significant first. -/
def fourOctets (number : Nat) : List UInt8 :=
  [octetOf 3 number, octetOf 2 number, octetOf 1 number, octetOf 0 number]

namespace Packet

/-- The payload is short enough for its length to be written. -/
def Fits (packet : Packet) : Prop :=
  packet.payload.length < 0x100000000

instance (packet : Packet) : Decidable packet.Fits :=
  inferInstanceAs (Decidable (_ < _))

def header (packet : Packet) : List UInt8 :=
  packet.number :: packet.filler.1 :: packet.filler.2.1 :: packet.filler.2.2 ::
    fourOctets packet.payload.length

/-- The packet as octets. -/
def encode (packet : Packet) : List UInt8 :=
  packet.header ++ packet.payload

/-- The frame in a packet. -/
def frame (packet : Packet) : Except FramingError Frame :=
  Frame.ofParts packet.number.toNat packet.payload

end Packet

/-- The complete packet at the front of some octets and what follows it. -/
def first? : List UInt8 → Option (Packet × List UInt8)
  | number :: filler₁ :: filler₂ :: filler₃ :: s₁ :: s₂ :: s₃ :: s₄ :: rest =>
    let size := Frame.bigEndian [s₁, s₂, s₃, s₄]
    if rest.length < size then none
    else some (⟨number, (filler₁, filler₂, filler₃), rest.take size⟩, rest.drop size)
  | _ => none

theorem length_of_first? {octets rest : List UInt8} {packet : Packet}
    (found : first? octets = some (packet, rest)) : rest.length < octets.length := by
  unfold first? at found
  split at found
  · simp only at found
    split at found
    · cases found
    · simp only [Option.some.injEq, Prod.mk.injEq] at found
      obtain ⟨_, rfl⟩ := found
      simp only [List.length_drop, List.length_cons]
      omega
  · cases found

/-- The complete packets at the front of some octets and what is left behind
them. -/
def packets (octets : List UInt8) : List Packet × List UInt8 :=
  match _found : first? octets with
  | none => ([], octets)
  | some (packet, rest) =>
    let (later, left) := packets rest
    (packet :: later, left)
  termination_by octets.length
  decreasing_by exact length_of_first? _found

/-- Packets as octets, one after another. -/
def encode (packets : List Packet) : List UInt8 :=
  packets.flatMap Packet.encode

/-- The frames of packets up to the first that is refused, and why it is. -/
def frames : List Packet → List Frame × Option FramingError
  | [] => ([], none)
  | packet :: later =>
    match packet.frame with
    | .error error => ([], some error)
    | .ok frame =>
      let (frames, error) := frames later
      (frame :: frames, error)

/-- Why octets that hold no complete packet are no end of a stream, if they
are not. -/
def shortfall : List UInt8 → Option FramingError
  | [] => none
  | _ :: _ :: _ :: _ :: s₁ :: s₂ :: s₃ :: s₄ :: rest =>
    some (.shortPayload rest.length (Frame.bigEndian [s₁, s₂, s₃, s₄]))
  | octets => some (.shortHeader octets.length)

/-- How a stream ends behind its last complete packet: by the source's own
error where it has one, or else by what is missing. -/
def endingOf (left : List UInt8) (sourceEnding : Option PeerError) : Option StreamError :=
  match sourceEnding with
  | some error => some (.peer error)
  | none => (shortfall left).map .framing

/-- The frames of a stream and how it ends, told from its octets alone. -/
def readAll (octets : List UInt8) (sourceEnding : Option PeerError) :
    List Frame × Option StreamError :=
  let (packets, left) := packets octets
  let (frames, refused) := frames packets
  match refused with
  | some error => (frames, some (.framing error))
  | none => (frames, endingOf left sourceEnding)

end Wire
end Log
end ContainerFleet
