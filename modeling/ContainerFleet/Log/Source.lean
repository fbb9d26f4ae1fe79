import ContainerFleet.PeerError

/-!
# Byte sources

A stream of octets that is read in pieces.  How large a piece is lies with
the source: each read delivers at least one octet and at most as many as
asked for, until the octets run out; then the stream ends or fails.
-/

namespace ContainerFleet
namespace Log

/-- A stream of octets.  `grants` says how many octets beyond the first the
source is willing to deliver at its n-th read. -/
structure ByteSource where
  octets : List UInt8
  ending : Option PeerError
  grants : Nat → Nat
  reads : Nat

namespace ByteSource

/-- A source that delivers as much as is asked for. -/
def ofOctets (octets : List UInt8) (ending : Option PeerError) : ByteSource :=
  ⟨octets, ending, fun _ => octets.length, 0⟩

/-- A source whose reads deliver at most `most` octets each. -/
def chunked (octets : List UInt8) (ending : Option PeerError) (most : Nat) : ByteSource :=
  ⟨octets, ending, fun _ => most - 1, 0⟩

/-- Read at most `wanted` octets; nothing at the end of the stream. -/
def read (source : ByteSource) (wanted : Nat) : Except PeerError (List UInt8 × ByteSource) :=
  match source.octets, source.ending with
  | [], some error => .error error
  | [], none => .ok ([], source)
  | _ :: _, _ =>
    let count := min wanted (source.grants source.reads + 1)
    .ok (source.octets.take count,
      { source with octets := source.octets.drop count, reads := source.reads + 1 })

/-- Read `wanted` octets, fewer only where the stream ends before.  The
pieces `got` so far are kept latest first; each read is counted in `fuel`. -/
def readFrom : (fuel : Nat) → (got : List (List UInt8)) → (wanted : Nat) → ByteSource →
    Except PeerError (List UInt8 × ByteSource)
  | 0, got, _, source => .ok (got.reverse.flatten, source)
  | fuel + 1, got, wanted, source =>
    if wanted = 0 then .ok (got.reverse.flatten, source)
    else
      match source.read wanted with
      | .error error => .error error
      | .ok ([], source) => .ok (got.reverse.flatten, source)
      | .ok (piece, source) => readFrom fuel (piece :: got) (wanted - piece.length) source

/-- Read exactly `wanted` octets, fewer only where the stream ends before. -/
def readExact (source : ByteSource) (wanted : Nat) :
    Except PeerError (List UInt8 × ByteSource) :=
  readFrom (source.octets.length + 1) [] wanted source

end ByteSource
end Log
end ContainerFleet
