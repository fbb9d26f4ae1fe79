import ContainerFleet.Decode.Record
import ContainerFleet.Json.Reader
import ContainerFleet.Text.Utf8

/-!
# Frames from a remote terminal

What a remote terminal sends: text or octets.  Text that is a document with
the right members asks for another size of the terminal; everything else is
input for the command that runs in it.
-/

namespace ContainerFleet
namespace Terminal

/-- One frame; at most one of its parts is there. -/
structure Frame where
  text : Option String
  data : Option (List UInt8)
  deriving DecidableEq, Repr

namespace Frame

def ofText (text : String) : Frame := ⟨some text, none⟩

def ofOctets (octets : List UInt8) : Frame := ⟨none, some octets⟩

def empty : Frame := ⟨none, none⟩

/-- The octets that a frame gives as input. -/
def payload (frame : Frame) : List UInt8 :=
  match frame.text with
  | some text => Utf8.encodeText text
  | none => frame.data.getD []

end Frame

/-- A wish for another size of the terminal. -/
structure Resize where
  columns : Int
  rows : Int
  deriving DecidableEq, Repr

namespace Resize

open Decode

/-- A count that is not negative; zero where it is not given. -/
def count (members : Members) (name : String) : Checked Int :=
  withDefault members name (ensure whole (0 ≤ ·) .belowMinimum) 0

def decode (members : Members) : Checked Resize :=
  Resize.mk <$> count members "cols" <*> count members "rows"

/-- The wish that a document expresses, if it does. -/
def ofDocument? (document : Json) : Option Resize :=
  match document with
  | .object members =>
    match members.lookup "type" with
    | some (.text "resize") =>
      match decode members with
      | .ok resize => some resize
      | .failed _ => none
    | _ => none
  | _ => none

/-- The wish that a text expresses, if it does.  Text that is no document
expresses none; only nesting beyond the levels of the reader is an error. -/
def ofText (text : String) (levels : Nat := Json.Reader.usualLevels) :
    Except Json.ReadError (Option Resize) :=
  match Json.read text levels with
  | .ok document => .ok (ofDocument? document)
  | .error .malformed => .ok none
  | .error .tooDeep => .error .tooDeep

end Resize
end Terminal
end ContainerFleet
