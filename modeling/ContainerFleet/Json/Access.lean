import ContainerFleet.Json.Basic

/-!
# Taking documents apart

Daemons answer with documents whose form is not promised.  Each way of taking
one apart says what goes wrong when the document is of another kind.
-/

namespace ContainerFleet

namespace Json

/-- The kinds of document. -/
inductive Kind where
  | null
  | bool
  | whole
  | fraction
  | text
  | array
  | object
  deriving DecidableEq, Repr

def kind : Json → Kind
  | .null => .null
  | .bool _ => .bool
  | .whole _ => .whole
  | .fraction _ => .fraction
  | .text _ => .text
  | .array _ => .array
  | .object _ => .object

/-- The name of a kind in error texts. -/
def Kind.name : Kind → String
  | .null => "NoneType"
  | .bool => "bool"
  | .whole => "int"
  | .fraction => "float"
  | .text => "str"
  | .array => "list"
  | .object => "dict"

end Json

/-- A document of a kind with which the operation asked for is impossible. -/
inductive ShapeError where
  /-- The operation does not exist for documents of this kind. -/
  | noOperation (found : Json.Kind) (operation : String)
  /-- The document cannot be gone through. -/
  | notIterable (found : Json.Kind)
  /-- The document has no members under keys. -/
  | notIndexable (found : Json.Kind)
  /-- The document has no length. -/
  | noLength (found : Json.Kind)
  /-- The object has no member under the key. -/
  | absentKey (key : String)
  /-- An entry of a list of pairs cannot be gone through. -/
  | notEntry (position : Nat)
  /-- An entry of a list of pairs has another length. -/
  | notPair (position length : Nat)
  /-- The document cannot be a key. -/
  | notKey (found : Json.Kind)
  /-- The document cannot be an address. -/
  | notAddress (found : Json.Kind)
  deriving DecidableEq, Repr

namespace ShapeError

def message : ShapeError → String
  | .noOperation found operation =>
    "'" ++ found.name ++ "' object has no attribute '" ++ operation ++ "'"
  | .notIterable found => "'" ++ found.name ++ "' object is not iterable"
  | .notIndexable .array => "list indices must be integers or slices, not str"
  | .notIndexable .text => "string indices must be integers, not 'str'"
  | .notIndexable found => "'" ++ found.name ++ "' object is not subscriptable"
  | .noLength found => "object of type '" ++ found.name ++ "' has no len()"
  | .absentKey key => "'" ++ key ++ "'"
  | .notEntry position =>
    s!"cannot convert dictionary update sequence element #{position} to a sequence"
  | .notPair position length =>
    s!"dictionary update sequence element #{position} has length {length}; 2 is required"
  | .notKey found => "unhashable type: '" ++ found.name ++ "'"
  | .notAddress found => "Invalid type for url: '" ++ found.name ++ "'"

end ShapeError

namespace Json

/-- The member of an object under a key, or a default where there is none. -/
def getD (document : Json) (key : String) (default : Json) : Except ShapeError Json :=
  match document with
  | .object members => .ok ((members.lookup key).getD default)
  | other => .error (.noOperation other.kind "get")

/-- The member of an object under a key; null where there is none. -/
def get (document : Json) (key : String) : Except ShapeError Json :=
  document.getD key .null

/-- The document, or a default in place of an empty one. -/
def orElse (document default : Json) : Json :=
  if document.isEmpty then default else document

/-- The parts of a document one after another: items, keys or characters. -/
def parts : Json → Except ShapeError (List Json)
  | .array items => .ok items
  | .object members => .ok (members.map fun member => .text member.1)
  | .text value => .ok (value.toList.map fun char => .text (String.singleton char))
  | other => .error (.notIterable other.kind)

/-- How many parts a document has. -/
def count : Json → Except ShapeError Nat
  | .array items => .ok items.length
  | .object members => .ok members.length
  | .text value => .ok value.length
  | other => .error (.noLength other.kind)

/-- The members of an object. -/
def entries : Json → Except ShapeError (List (String × Json))
  | .object members => .ok members
  | other => .error (.noOperation other.kind "items")

/-- The member of an object under a key that has to be there. -/
def demand (document : Json) (key : String) : Except ShapeError Json :=
  match document with
  | .object members =>
    match members.lookup key with
    | some value => .ok value
    | none => .error (.absentKey key)
  | other => .error (.notIndexable other.kind)

/-- The text of a text document; `operation` is what is to be done with it. -/
def textFor (operation : String) : Json → Except ShapeError String
  | .text value => .ok value
  | other => .error (.noOperation other.kind operation)

end Json
end ContainerFleet
