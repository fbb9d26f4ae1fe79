/-!
# Lossy UTF-8

Octets are read as UTF-8 one at a time.  Each maximal ill-formed subpart (the
longest beginning of a well-formed sequence, or else one octet) becomes one
replacement character, so reading never fails and every well-formed text is
read exactly.
-/

namespace ContainerFleet
namespace Utf8

/-- Stands for a maximal ill-formed subpart. -/
def replacement : Char := '\uFFFD'

/-- A sequence that has begun: how many octets it still needs, the range that
the next one must lie in, and the bits collected so far. -/
structure Partial where
  missing : Nat
  low : UInt8
  high : UInt8
  bits : Nat
  deriving DecidableEq, Repr

/-- What an octet at the start of a sequence announces. -/
inductive Lead where
  | whole (char : Char)
  | begins (sequence : Partial)
  | stray
  deriving DecidableEq, Repr

/-- The table of first octets.  The narrowed ranges after `E0`, `ED`, `F0` and
`F4` exclude overlong forms, surrogates and numbers above `10FFFF`. -/
def Lead.ofOctet (octet : UInt8) : Lead :=
  if octet < 0x80 then .whole (Char.ofNat octet.toNat)
  else if octet < 0xC2 then .stray
  else if octet < 0xE0 then .begins ⟨1, 0x80, 0xBF, octet.toNat - 0xC0⟩
  else if octet < 0xF0 then
    .begins ⟨2, if octet = 0xE0 then 0xA0 else 0x80, if octet = 0xED then 0x9F else 0xBF,
      octet.toNat - 0xE0⟩
  else if octet < 0xF5 then
    .begins ⟨3, if octet = 0xF0 then 0x90 else 0x80, if octet = 0xF4 then 0x8F else 0xBF,
      octet.toNat - 0xF0⟩
  else .stray

/-- A decoder between two octets: the characters read so far, latest first,
and the sequence that has begun, if any. -/
structure Decoder where
  read : List Char
  open? : Option Partial
  deriving DecidableEq, Repr

namespace Decoder

/-- The decoder before the first octet. -/
def start : Decoder := ⟨[], none⟩

/-- Read an octet that begins a sequence. -/
def feedLead (read : List Char) (octet : UInt8) : Decoder :=
  match Lead.ofOctet octet with
  | .whole char => ⟨char :: read, none⟩
  | .begins sequence => ⟨read, some sequence⟩
  | .stray => ⟨replacement :: read, none⟩

/-- Read one octet.  One that cannot continue the open sequence ends it as
ill-formed and is then read as the start of the next. -/
def feed (decoder : Decoder) (octet : UInt8) : Decoder :=
  match decoder.open? with
  | none => feedLead decoder.read octet
  | some sequence =>
    if sequence.low ≤ octet ∧ octet ≤ sequence.high then
      let bits := 64 * sequence.bits + (octet.toNat - 0x80)
      if sequence.missing = 1 then ⟨Char.ofNat bits :: decoder.read, none⟩
      else ⟨decoder.read, some ⟨sequence.missing - 1, 0x80, 0xBF, bits⟩⟩
    else feedLead (replacement :: decoder.read) octet

/-- The characters read when no octet follows. -/
def finish (decoder : Decoder) : List Char :=
  match decoder.open? with
  | none => decoder.read.reverse
  | some _ => (replacement :: decoder.read).reverse

end Decoder

/-- The characters that a list of octets spells. -/
def decode (octets : List UInt8) : List Char :=
  (octets.foldl Decoder.feed Decoder.start).finish

/-- The text that a list of octets spells. -/
def decodeText (octets : List UInt8) : String :=
  String.ofList (decode octets)

/-- The octets of a text. -/
def encodeText (text : String) : List UInt8 :=
  text.toUTF8.toList

example : decode [0xE2, 0x82, 0xAC] = ['€'] := by decide
example : decode [0xF0, 0x9F, 0x98, 0x80] = ['😀'] := by decide
example : decode [0xE2, 0x82, 0x41] = [replacement, 'A'] := by decide
example : decode [0xED, 0xA0, 0x80] = [replacement, replacement, replacement] := by decide

end Utf8
end ContainerFleet
