import ContainerFleet.Json.Basic
import ContainerFleet.Table

/-!
# Building documents

Documents from lists, tables and values that may be absent.
-/

namespace ContainerFleet
namespace Json

/-- A list of texts. -/
def ofTexts (texts : List String) : Json :=
  .array (texts.map .text)

/-- An object whose members are all texts. -/
def ofTable (table : Table String String) : Json :=
  .object (table.map fun entry => (entry.1, .text entry.2))

/-- A list of documents. -/
def ofList {α : Type} (document : α → Json) (values : List α) : Json :=
  .array (values.map document)

/-- The document of a value, or null where there is none. -/
def ofOption {α : Type} (document : α → Json) : Option α → Json
  | some value => document value
  | none => .null

end Json
end ContainerFleet
