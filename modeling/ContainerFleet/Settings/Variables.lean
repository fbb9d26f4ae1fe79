import ContainerFleet.Decode.Record

/-!
# Names of settings

Settings come from explicit keywords and from environment variables.  Both are
matched with the fields of a record without regard to letter case.
-/

namespace ContainerFleet

open Decode

/-- Environment variables, in the order in which they were set. -/
abbrev Variables := List (String × String)

namespace Settings

/-- A letter in the form in which names are compared.  The sign for kelvin is
a capital k. -/
def foldCase (char : Char) : Char :=
  if char = '\u212a' then 'k' else char.toLower

/-- Whether a name is that of a field, which is given in lower case. -/
def isNameOf (name field : String) : Bool :=
  name.toList.map foldCase == field.toList

/-- The value that keywords give for a field; of several the first. -/
def keyword? (keywords : Members) (field : String) : Option Json :=
  (keywords.find? fun member => isNameOf member.1 field).map Prod.snd

/-- The members that keywords give for fields. -/
def fieldMembers (keywords : Members) (fields : List String) : Members :=
  fields.filterMap fun field => (keyword? keywords field).map fun value => (field, value)

/-- Each keyword that belongs to no field is an issue of its own. -/
def checkNames (keywords : Members) (fields : List String) : Checked Unit :=
  match (keywords.filter fun member => !fields.any (isNameOf member.1)).map fun member =>
      (⟨[.key member.1], .unexpected⟩ : Issue) with
  | [] => .ok ()
  | issues => .failed issues

end Settings

namespace Variables

/-- The value of the variable of a name, given in lower case; of several the
last. -/
def find? (environment : Variables) (name : String) : Option String :=
  (environment.reverse.find? fun entry => Settings.isNameOf entry.1 name).map Prod.snd

/-- The members that variables give for fields, each variable being named by
a prefix and the field. -/
def toMembers (environment : Variables) (start : String) (fields : List String) : Members :=
  fields.filterMap fun field =>
    (environment.find? (start ++ field)).map fun value => (field, .text value)

end Variables
end ContainerFleet
