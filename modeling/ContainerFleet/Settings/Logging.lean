import ContainerFleet.Settings.Variables
import ContainerFleet.Text.Capital
import ContainerFleet.Text.Quoted

/-!
# Logging levels

The level from which on events are logged, chosen by name; each known name
stands for a number.
-/

namespace ContainerFleet
namespace Logging

/-- The numbers of the known levels. -/
def levels : List (String × Nat) :=
  [("CRITICAL", 50), ("FATAL", 50), ("ERROR", 40), ("WARN", 30), ("WARNING", 30), ("INFO", 20),
   ("DEBUG", 10), ("NOTSET", 0)]

/-- The name of the level to use: the one asked for, or else the one in the
environment, or else `INFO`.  An empty name asks for nothing. -/
def levelName (asked : Option String) (environment : Variables) : String :=
  match asked.filter fun name => !name.isEmpty with
  | some name => name
  | none => (environment.lookup "LOG_LEVEL").getD "INFO"

/-- The number of the level to use, or the words that no such level exists. -/
def choose (asked : Option String) (environment : Variables) : Except String Nat :=
  let name := Text.capitals (levelName asked environment)
  match levels.lookup name with
  | some number => .ok number
  | none => .error ("Unknown level: " ++ Text.quoted name)

end Logging
end ContainerFleet
