import ContainerFleet.Json.Access
import ContainerFleet.Json.Shown
import ContainerFleet.Number.Binary64
import ContainerFleet.Table

/-!
# Members from pairs

An object may also be written as a list of pairs, each a key and a value.  A
pair is anything with two parts, and a key any document without parts of its
own, or a text.  Of several values for one key the last counts, in the place
of the first.
-/

namespace ContainerFleet
namespace Json

/-- A key in the form in which keys are compared: flags and fractions without
places count as whole numbers. -/
def comparable : Json → Json
  | .bool value => .whole (if value then 1 else 0)
  | .fraction value =>
    match Binary64.parts? value with
    | some parts => if parts.isWhole then .whole parts.truncated else .fraction value
    | none => .fraction value
  | key => key

/-- A document that can be a key. -/
def asKey (document : Json) : Except ShapeError Json :=
  match document with
  | .array _ | .object _ => .error (.notKey document.kind)
  | key => .ok key

/-- Bind a key to a value among pairs. -/
def setPair (pairs : List (Json × Json)) (key value : Json) : List (Json × Json) :=
  match pairs with
  | [] => [(key, value)]
  | (present, old) :: later =>
    if present.comparable == key.comparable then (present, value) :: later
    else (present, old) :: setPair later key value

/-- The key and the value of an entry in a list of pairs. -/
def pairOf (position : Nat) (entry : Json) : Except ShapeError (Json × Json) :=
  match entry.parts with
  | .error _ => .error (.notEntry position)
  | .ok [key, value] => do return (← key.asKey, value)
  | .ok parts => .error (.notPair position parts.length)

/-- Bind the keys of entries one after another. -/
def takePairs (pairs : List (Json × Json)) (position : Nat) :
    List Json → Except ShapeError (List (Json × Json))
  | [] => .ok pairs
  | entry :: later => do
    let (key, value) ← pairOf position entry
    takePairs (setPair pairs key value) (position + 1) later

/-- The members that a document makes, be it an object or a list of pairs. -/
def toMembers (document : Json) : Except ShapeError (List (String × Json)) :=
  match document with
  | .object members => .ok members
  | other => do
    let pairs ← takePairs [] 0 (← other.parts)
    return Table.ofEntries (pairs.map fun pair => (pair.1.shown, pair.2))

end Json
end ContainerFleet
