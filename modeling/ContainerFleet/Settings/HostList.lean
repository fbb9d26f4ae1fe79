import ContainerFleet.Host
import ContainerFleet.Text.Blank
import ContainerFleet.Text.Split

/-!
# Lists of hosts

Hosts are listed as `name=address` items with commas between them.  Blanks
around items, names and addresses do not count, and blank items are passed
over.  `check` says whether a text is such a list with different names, and
`hosts` reads it.
-/

namespace ContainerFleet
namespace HostList

/-- The items of a list that are not blank, without the blanks around them. -/
def items (text : List Char) : List (List Char) :=
  ((Text.splitAt ',' text).map Text.trim).filter fun item => !item.isEmpty

/-- Why a text is no list of hosts. -/
inductive Flaw where
  /-- An item lacks the equals sign, the name or the address. -/
  | badItem (item : String)
  | duplicateName (name : String)
  deriving DecidableEq, Repr

def Flaw.message : Flaw → String
  | .badItem item => "Invalid host entry '" ++ item ++ "', expected name=uri"
  | .duplicateName name => "Duplicate host name '" ++ name ++ "'"

/-- The trimmed name of an item that has a name and an address. -/
def itemName? (item : List Char) : Option (List Char) := do
  let (name, uri) ← Text.cutAt? '=' item
  if (Text.trim name).isEmpty || (Text.trim uri).isEmpty then none else some (Text.trim name)

/-- Check items one after another against the names `seen` before them. -/
def checkItems (seen : List (List Char)) : List (List Char) → Except Flaw Unit
  | [] => .ok ()
  | item :: later =>
    match itemName? item with
    | none => .error (.badItem (String.ofList item))
    | some name =>
      if seen.contains name then .error (.duplicateName (String.ofList name))
      else checkItems (name :: seen) later

/-- Whether a text lists hosts with different names. -/
def check (text : String) : Except Flaw Unit :=
  checkItems [] (items text.toList)

/-- The host that an item describes; an item without an equals sign would be
a name without an address. -/
def hostOf (item : List Char) : Host :=
  match Text.cutAt? '=' item with
  | some (name, uri) => ⟨String.ofList (Text.trim name), String.ofList (Text.trim uri)⟩
  | none => ⟨String.ofList (Text.trim item), ""⟩

/-- The hosts that a text lists, in order. -/
def hosts (text : String) : List Host :=
  (items text.toList).map hostOf

end HostList
end ContainerFleet
