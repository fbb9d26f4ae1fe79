import ContainerFleet.Json.Access
import ContainerFleet.Table
import ContainerFleet.Text.Split

/-!
# Environments

A container's environment is a list of entries `KEY=VALUE`, read as a table.
The first equals sign of an entry ends the key; an entry without one is no
entry.
-/

namespace ContainerFleet
namespace Reconcile

/-- A table of variables. -/
abbrev Env := Table String String

namespace Env

/-- The key and the value of an entry. -/
def parseEntry? (entry : String) : Option (String × String) :=
  (Text.cutAt? '=' entry.toList).map fun (key, value) => (String.ofList key, String.ofList value)

/-- The table that a list of entries spells; of entries with one key the last
counts, in the place of the first. -/
def ofEntries (entries : List String) : Env :=
  Table.ofEntries (entries.filterMap parseEntry?)

/-- The table that the parts of a document spell; each has to be a text. -/
def ofDocument (listed : Json) : Except ShapeError Env := do
  return ofEntries (← (← listed.parts).mapM (Json.textFor "partition"))

/-- The desired environment in the order of the current one: the keys that
stay keep their places, new keys follow, and all other keys go. -/
def merge {α : Type} (current desired : Table String α) : Table String α :=
  desired.foldl (fun table entry => table.set entry.1 entry.2)
    (current.filter fun entry => desired.contains entry.1)

def entryText (entry : String × String) : String :=
  entry.1 ++ "=" ++ entry.2

/-- The entries of an environment, ordered by the code points of their keys. -/
def toEntries (env : Env) : List String :=
  (env.mergeSort fun first second => !decide (second.1 < first.1)).map entryText

end Env
end Reconcile
end ContainerFleet
