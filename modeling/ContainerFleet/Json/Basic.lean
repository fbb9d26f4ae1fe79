/-!
# Documents

A JSON document.  Whole numbers and binary fractions are kept apart as they
were written, whole numbers have any size, and the members of an object keep
the order in which their keys first appeared.
-/

namespace ContainerFleet

inductive Json where
  | null
  | bool (value : Bool)
  | whole (value : Int)
  | fraction (value : Float)
  | text (value : String)
  | array (items : List Json)
  | object (members : List (String × Json))
  deriving Inhabited, BEq, Repr

namespace Json

/-- The member of an object under a key. -/
def member? (key : String) : Json → Option Json
  | .object members => members.lookup key
  | _ => none

/-- A document counts as empty when it is null, false, zero or has nothing in it. -/
def isEmpty : Json → Bool
  | .null => true
  | .bool value => !value
  | .whole value => value == 0
  | .fraction value => value == 0.0
  | .text value => value.isEmpty
  | .array items => items.isEmpty
  | .object members => members.isEmpty

end Json
end ContainerFleet
