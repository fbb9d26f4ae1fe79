import ContainerFleet.Decode.Scalar
import ContainerFleet.Table

/-!
# Lenient records

Lists, tables and records of decoded values.  A record takes its members by
name, fills in defaults for absent ones and passes over members that it does
not know.
-/

namespace ContainerFleet
namespace Decode

variable {α : Type}

/-- A value that may be null. -/
def optional (decoder : Decoder α) : Decoder (Option α)
  | .null => .ok none
  | document => some <$> decoder document

def list (decoder : Decoder α) : Decoder (List α)
  | .array items => Checked.all decoder 0 items
  | _ => .problem .notList

def table (decoder : Decoder α) : Decoder (Table String α)
  | .object members => Checked.allMembers decoder members
  | _ => .problem .notTable

/-- One of several named values. -/
def choice (named : List (String × α)) : Decoder α
  | .text name =>
    match named.lookup name with
    | some value => .ok value
    | none => .problem .notChoice
  | _ => .problem .notChoice

/-- The members of a record. -/
abbrev Members := List (String × Json)

def record (decoder : Members → Checked α) : Decoder α
  | .object members => decoder members
  | _ => .problem .notRecord

/-- A member that has to be there. -/
def required (members : Members) (name : String) (decoder : Decoder α) : Checked α :=
  Checked.within (.key name) <|
    match members.lookup name with
    | some document => decoder document
    | none => .problem .missing

/-- A member with a value for the case that it is absent. -/
def withDefault (members : Members) (name : String) (decoder : Decoder α) (default : α) :
    Checked α :=
  match members.lookup name with
  | some document => (decoder document).within (.key name)
  | none => .ok default

/-- A decoded value that must satisfy a condition. -/
def ensure (decoder : Decoder α) (holds : α → Bool) (problem : Problem) : Decoder α :=
  fun document => (decoder document).andThen fun value =>
    if holds value then .ok value else .problem problem

end Decode
end ContainerFleet
