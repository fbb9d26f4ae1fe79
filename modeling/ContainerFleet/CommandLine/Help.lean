import ContainerFleet.CommandLine.Grammar
import ContainerFleet.CommandLine.Paint
import ContainerFleet.Text.Split

/-!
# Explaining a command line

The usage line of a program or of one of its commands, and the help that lists
all that can be typed.  Names stand on the left and their explanation beside
them, in one column for the whole help; where the column is too narrow for a
name, the explanation begins on the next line.
-/

namespace ContainerFleet
namespace CommandLine

/-- The width of all explanations. -/
def pageWidth : Nat := 78

/-- The column in which explanations stand at the latest. -/
def widestColumn : Nat := 24

/-- The blanks in front of every entry. -/
def margin : Nat := 2

def blanks (count : Nat) : String :=
  String.ofList (List.replicate count ' ')

/-- Words joined into lines of at most `width` characters.  A word begins a
new line where it does not fit behind the line so far, `used` characters of
which are taken. -/
def fill (width : Nat) : Nat → List String → List String → List (List String)
  | _, line, [] => if line.isEmpty then [] else [line.reverse]
  | used, line, word :: later =>
    if line.isEmpty || used + 1 + word.length ≤ width then
      fill width (used + 1 + word.length) (word :: line) later
    else line.reverse :: fill width word.length [word] later

/-- The lines of a paragraph of at most `width` characters. -/
def paragraph (width : Nat) (text : String) : List String :=
  let words := (Text.splitAt ' ' text.toList).map String.ofList
  let lines := fill width 0 [] (words.filter fun word => !word.isEmpty)
  lines.map (" ".intercalate ·)

namespace Choice

/-- The placeholder for a setting's value. -/
def placeholder (name : String) : String :=
  String.ofList (name.toList.map Char.toUpper)

/-- A choice in a usage line, in its shortest spelling. -/
def usage : Choice → String
  | .switch letter name _ =>
    match letter with
    | some letter => s!"[{spelledLetter letter}]"
    | none => s!"[--{name}]"
  | .setting name _ _ _ => s!"[--{name} {placeholder name}]"

/-- A choice in a list, with all its spellings. -/
def heading (choice : Choice) : String :=
  match choice with
  | .switch _ _ _ => ", ".intercalate choice.spellings
  | .setting name _ _ _ => s!"--{name} {placeholder name}"

end Choice

/-- What every usage line begins with. -/
def usageLead : String := "usage: "

/-- A usage line.  Where it is too long, choices and places each begin a line
behind the name. -/
def usageText (name : String) (choices places : List String) : String :=
  let whole := " ".intercalate (name :: choices ++ places)
  if usageLead.length + whole.length ≤ pageWidth then usageLead ++ whole ++ "\n"
  else
    let indent := usageLead.length + name.length + 1
    let taken := indent - 1
    let lines := fill (pageWidth - taken - 1) 0 [] choices ++
      fill (pageWidth - taken - 1) 0 [] places
    let texts := lines.map (" ".intercalate ·)
    usageLead ++ name ++ " " ++ (("\n" ++ blanks indent).intercalate texts) ++ "\n"

/-- An entry of a list: a name and its explanation, both further in by
`depth`. -/
structure Item where
  depth : Nat
  heading : String
  help : String
  deriving Repr

namespace Item

/-- How far the name reaches. -/
def reach (item : Item) : Nat :=
  item.heading.length + item.depth

/-- The item's lines where explanations stand in a column. -/
def text (column : Nat) (item : Item) : String :=
  let lines := paragraph (pageWidth - column) item.help
  let beside := item.depth + item.heading.length + margin ≤ column
  let first := blanks item.depth ++ item.heading
  let body := ("\n" ++ blanks column).intercalate lines
  if beside then padRight column first ++ body ++ "\n"
  else first ++ "\n" ++ blanks column ++ body ++ "\n"

end Item

/-- The column for the explanations of some items. -/
def columnOf (items : List Item) : Nat :=
  min widestColumn (items.foldl (fun most item => max most item.reach) 0 + margin)

/-- A list under a title; nothing where the list is empty. -/
def listing (column : Nat) (title : String) (items : List Item) : List String :=
  if items.isEmpty then []
  else [title ++ ":\n" ++ String.join (items.map (Item.text column))]

/-- The items of choices. -/
def choiceItems (choices : List Choice) : List Item :=
  choices.map fun choice => ⟨margin, choice.heading, choice.help⟩

/-- The title over the words that stand in places. -/
def placesTitle : String := "positional arguments"

/-- The title over the choices. -/
def choicesTitle : String := "options"

namespace Form

/-- The name under which a command is typed. -/
def fullName (form : Form) (program : Program) : String :=
  program.name ++ " " ++ form.name

def usage (form : Form) (program : Program) : String :=
  usageText (form.fullName program) (form.allChoices.map Choice.usage)
    (form.places.map Place.name)

/-- All that can be typed behind a command. -/
def page (form : Form) (program : Program) : String :=
  let places := form.places.map fun place => (⟨margin, place.name, place.help⟩ : Item)
  let choices := choiceItems form.allChoices
  let column := columnOf (places ++ choices)
  "\n".intercalate (form.usage program ::
    listing column placesTitle places ++ listing column choicesTitle choices)

end Form

namespace Program

/-- All commands in one word. -/
def commandsWord (program : Program) : String :=
  "\x7b" ++ ",".intercalate (program.forms.map Form.name) ++ "\x7d"

def usage (program : Program) : String :=
  usageText program.name [Choice.showHelp.usage] [program.commandsWord, "..."]

/-- All that can be typed behind the program's name. -/
def page (program : Program) : String :=
  let commands : List Item :=
    ⟨margin, program.commandsWord, program.command.help⟩ ::
      program.forms.map fun form => ⟨2 * margin, form.name, form.help⟩
  let choices := choiceItems [Choice.showHelp]
  let column := columnOf (commands ++ choices)
  "\n".intercalate ([program.usage, program.description ++ "\n"] ++
    listing column placesTitle commands ++ listing column choicesTitle choices ++
    [program.closing])

end Program
end CommandLine
end ContainerFleet
