import ContainerFleet.Text.Quoted

/-!
# The words of a program

What can be typed behind a program's name: a command, the words that it needs
in their places, switches, and settings that have a value.  The same
description serves for reading what was typed and for explaining it.
-/

namespace ContainerFleet
namespace CommandLine

/-- What a word on the command line means. -/
inductive Value where
  | text (value : String)
  | whole (value : Int)
  | fraction (value : Float)
  | flag (value : Bool)
  /-- Nothing was typed. -/
  | absent
  /-- The word itself was a separator, so that nothing is left of it. -/
  | nothing
  deriving Repr

/-- The kinds of values that a setting can have. -/
inductive Kind where
  | text
  | whole
  | fraction
  deriving DecidableEq, Repr

/-- A word that a command needs in its place. -/
structure Place where
  name : String
  help : String
  deriving DecidableEq, Repr

/-- What is chosen by name.  A switch is on or off and may have a name of one
letter; a setting has a value. -/
inductive Choice where
  | switch (letter : Option Char) (name : String) (help : String)
  | setting (name : String) (kind : Kind) (default : Value) (help : String)
  deriving Repr

namespace Choice

def name : Choice → String
  | .switch _ name _ => name
  | .setting name _ _ _ => name

def help : Choice → String
  | .switch _ _ help => help
  | .setting _ _ _ help => help

/-- A one-letter name as it is typed. -/
def spelledLetter (letter : Char) : String :=
  String.ofList ['-', letter]

/-- All ways to type the name, the shortest first. -/
def spellings : Choice → List String
  | .switch letter name _ => letter.toList.map spelledLetter ++ ["--" ++ name]
  | .setting name _ _ _ => ["--" ++ name]

/-- The name in messages. -/
def label (choice : Choice) : String :=
  "/".intercalate choice.spellings

/-- What holds where nothing is typed. -/
def default : Choice → Value
  | .switch _ _ _ => .flag false
  | .setting _ _ default _ => default

/-- The switch that every form has. -/
def showHelp : Choice :=
  .switch (some 'h') "help" "show this help message and exit"

end Choice

/-- What can be typed behind the name of one command. -/
structure Form where
  name : String
  help : String
  places : List Place
  choices : List Choice
  deriving Repr

/-- The choices of a form, help among them. -/
def Form.allChoices (form : Form) : List Choice :=
  Choice.showHelp :: form.choices

/-- A program with its commands. -/
structure Program where
  name : String
  description : String
  /-- What is said at the end of the program's help. -/
  closing : String
  /-- The name under which the command itself is spoken of, and its help. -/
  command : Place
  forms : List Form
  deriving Repr

/-- Why something typed cannot be understood. -/
inductive Mistake where
  /-- The beginning of a name that several choices have. -/
  | ambiguous (typed : String) (names : List String)
  /-- A switch was given a value. -/
  | unwantedValue (label : String) (value : String)
  | missingValue (label : String)
  | badValue (label : String) (kind : Kind) (value : String)
  | unknownCommand (place : String) (typed : String) (commands : List String)
  | missingWords (names : List String)
  | unknownWords (words : List String)
  deriving Repr

/-- The name of a kind of number in messages. -/
def Kind.name : Kind → String
  | .text => "str"
  | .whole => "int"
  | .fraction => "float"

/-- Words in one text, with commas between them. -/
def commaSeparated (words : List String) : String :=
  ", ".intercalate words

/-- What is said about a mistake. -/
def Mistake.message : Mistake → String
  | .ambiguous typed names =>
    s!"ambiguous option: {typed} could match {commaSeparated names}"
  | .unwantedValue label value =>
    s!"argument {label}: ignored explicit argument {Text.quoted value}"
  | .missingValue label => s!"argument {label}: expected one argument"
  | .badValue label kind value =>
    s!"argument {label}: invalid {kind.name} value: {Text.quoted value}"
  | .unknownCommand place typed commands =>
    s!"argument {place}: invalid choice: {Text.quoted typed} " ++
    s!"(choose from {commaSeparated (commands.map Text.quoted)})"
  | .missingWords names => s!"the following arguments are required: {commaSeparated names}"
  | .unknownWords words => "unrecognized arguments: " ++ " ".intercalate words

end CommandLine
end ContainerFleet
