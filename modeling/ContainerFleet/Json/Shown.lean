import ContainerFleet.Json.Basic
import ContainerFleet.Number.Shortest
import ContainerFleet.Text.Quoted

/-!
# Documents in running text

How a document is shown where a text is wanted.  A text stands for itself;
inside of a list or an object it is quoted.
-/

namespace ContainerFleet
namespace Json

mutual

/-- A document as it is shown inside of others. -/
def spelled : Json → String
  | .null => "None"
  | .bool value => if value then "True" else "False"
  | .whole value => toString value
  | .fraction value => String.ofList (Decimal.shortest value)
  | .text value => Text.quoted value
  | .array items => "[" ++ ", ".intercalate (spelledItems items) ++ "]"
  | .object members => "\x7b" ++ ", ".intercalate (spelledMembers members) ++ "\x7d"

def spelledItems : List Json → List String
  | [] => []
  | item :: later => item.spelled :: spelledItems later

def spelledMembers : List (String × Json) → List String
  | [] => []
  | (key, value) :: later =>
    (Text.quoted key ++ ": " ++ value.spelled) :: spelledMembers later

end

/-- A document in a text. -/
def shown : Json → String
  | .text value => value
  | other => other.spelled

end Json
end ContainerFleet
