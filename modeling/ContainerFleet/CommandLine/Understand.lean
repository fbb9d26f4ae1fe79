import ContainerFleet.CommandLine.Grammar
import ContainerFleet.Decode.Typed
import ContainerFleet.Text.Split

/-!
# Understanding a command line

Names of choices may be cut short as long as only one choice begins so; the
letters of switches may be typed together; a value stands behind its setting
or behind an equals sign.  Behind a separator, two hyphens alone, everything
is a plain word.
-/

namespace ContainerFleet
namespace CommandLine

/-- A typed word, by its role. -/
inductive Token where
  | word (text : String)
  /-- A choice under one of its names, with what is attached to the name. -/
  | choice (choice : Choice) (spelled : String) (attached : Option String)
  | unknown (text : String)
  | separator
  deriving Repr

/-- Where reading stops early: help is asked for, or there is a mistake.  Both
belong to a form, or to the program where there is none. -/
inductive Stop where
  | help (form : Option Form)
  | mistake (form : Option Form) (mistake : Mistake)
  deriving Repr

/-- What separates plain words from the rest. -/
def separatorWord : String := "--"

/-- The choices with each of the ways to type them. -/
def namedChoices (choices : List Choice) : List (String × Choice) :=
  choices.flatMap fun choice => choice.spellings.map fun spelling => (spelling, choice)

/-- A word that could be a negative number. -/
def looksNegative (text : String) : Bool :=
  let chars := text.toList
  let chars := if chars.getLast? = some '\n' then chars.dropLast else chars
  let isDigit := fun char => (Text.decimalValue? char).isSome
  match chars with
  | '-' :: number =>
    (!number.isEmpty && number.all isDigit) ||
      (match number.dropWhile isDigit with
        | '.' :: places => !places.isEmpty && places.all isDigit
        | _ => false)
  | _ => false

/-- What a word means that begins with a hyphen and is no full name: all
choices that it may stand for, each with the name meant and an attached value. -/
def candidates (choices : List Choice) (text : String) : List (String × Token) :=
  let named := namedChoices choices
  match text.toList with
  | '-' :: '-' :: _ =>
    let (start, attached) := match Text.cutAt? '=' text.toList with
      | some (start, value) => (String.ofList start, some (String.ofList value))
      | none => (text, none)
    (named.filter fun entry => entry.1.startsWith start).map fun entry =>
      (entry.1, .choice entry.2 entry.1 attached)
  | '-' :: letter :: value =>
    (named.filter fun entry => entry.1 == Choice.spelledLetter letter).map fun entry =>
      (entry.1, .choice entry.2 entry.1 (some (String.ofList value)))
  | _ => []

/-- The choice that a word names in full, with an attached value if it has an
equals sign behind the name. -/
def fullName? (choices : List Choice) (text : String) : Option Token :=
  let named := namedChoices choices
  match named.lookup text with
  | some choice => some (.choice choice text none)
  | none => do
    let (start, value) ← Text.cutAt? '=' text.toList
    let choice ← named.lookup (String.ofList start)
    return .choice choice (String.ofList start) (some (String.ofList value))

/-- The role of a word where choices can be made. -/
def classify (choices : List Choice) (text : String) : Except Mistake Token :=
  match text.toList with
  | '-' :: _ :: _ =>
    match fullName? choices text with
    | some token => .ok token
    | none =>
      match candidates choices text with
      | [(_, token)] => .ok token
      | [] =>
        .ok (if looksNegative text || text.toList.contains ' ' then .word text else .unknown text)
      | several => .error (.ambiguous text (several.map Prod.fst))
  | _ => .ok (.word text)

/-- The roles of all words; behind a separator there are only plain words. -/
def tokensOf (choices : List Choice) : List String → Except Mistake (List Token)
  | [] => .ok []
  | text :: later =>
    if text = separatorWord then .ok (.separator :: later.map .word)
    else do return (← classify choices text) :: (← tokensOf choices later)

/-- The value that a word gives to a setting. -/
def valueOf (label : String) (kind : Kind) (text : String) : Except Mistake Value :=
  if text = separatorWord then .ok .nothing
  else
    match kind with
    | .text => .ok (.text text)
    | .whole =>
      match Decode.wholeOfWord? text with
      | some value => .ok (.whole value)
      | none => .error (.badValue label kind text)
    | .fraction =>
      match Decode.fractionOfWord? text with
      | some value => .ok (.fraction value)
      | none => .error (.badValue label kind text)

/-- The switches that further letters behind a letter stand for. -/
def cluster (choices : List Choice) (current : Choice) : List Char →
    Except Mistake (List Choice)
  | [] => .ok []
  | letter :: later =>
    match (namedChoices choices).lookup (Choice.spelledLetter letter) with
    | some next => do return next :: (← cluster choices next later)
    | none => .error (.unwantedValue current.label (String.ofList (letter :: later)))

/-- The switches that a switch under one of its names stands for, with what is
attached to it; only behind a letter can there be more of them. -/
def switchesOf (choices : List Choice) (choice : Choice) (spelled : String) :
    Option String → Except Mistake (List Choice)
  | none => .ok [choice]
  | some attached =>
    if spelled.length = 2 && !attached.isEmpty then do
      return choice :: (← cluster choices choice attached.toList)
    else .error (.unwantedValue choice.label attached)

/-- What was understood so far: the places still open, the values given,
latest first, and the words that nothing needs. -/
structure Understood where
  places : List Place
  values : List (String × Value)
  surplus : List String
  deriving Repr

namespace Understood

/-- Nothing has been read of a form. -/
def start (form : Form) : Understood := ⟨form.places, [], []⟩

def give (understood : Understood) (name : String) (value : Value) : Understood :=
  { understood with values := (name, value) :: understood.values }

def leave (understood : Understood) (word : String) : Understood :=
  { understood with surplus := understood.surplus ++ [word] }

/-- Put a value into the first open place, if one is open. -/
def fill? (understood : Understood) (value : Value) : Option Understood :=
  match understood.places with
  | [] => none
  | place :: later => some ({ understood with places := later }.give place.name value)

/-- Turn on switches; asking for help ends the reading. -/
def turnOn (form : Form) (understood : Understood) : List Choice → Except Stop Understood
  | [] => .ok understood
  | choice :: later =>
    if choice.name = Choice.showHelp.name then .error (.help (some form))
    else turnOn form (understood.give choice.name (.flag true)) later

/-- Take the roles one after another.  `filled` says that the word before went
into a place: then a separator belongs to that word, and otherwise to the word
behind it if that goes into a place. -/
def take (form : Form) : Bool → Understood → List Token → Except Stop Understood
  | _, understood, [] => .ok understood
  | _, understood, .unknown text :: later => take form false (understood.leave text) later
  | _, understood, .word text :: later =>
    match understood.fill? (if text = separatorWord then .nothing else .text text) with
    | some understood => take form true understood later
    | none => take form false (understood.leave text) later
  | true, understood, .separator :: later => take form false understood later
  | false, understood, .separator :: .word text :: later =>
    match understood.fill? (.text text) with
    | some understood => take form true understood later
    | none => take form false ((understood.leave separatorWord).leave text) later
  | false, understood, .separator :: later =>
    take form false (understood.leave separatorWord) later
  | _, understood, .choice (.setting name kind default help) _ (some attached) :: later => do
    let label := (Choice.setting name kind default help).label
    let value ← (valueOf label kind attached).mapError (.mistake (some form))
    take form false (understood.give name value) later
  | _, understood, .choice (.setting name kind default help) _ none :: .word text :: later => do
    let label := (Choice.setting name kind default help).label
    let value ← (valueOf label kind text).mapError (.mistake (some form))
    take form false (understood.give name value) later
  | _, _, .choice (.setting name kind default help) _ none :: _ =>
    .error (.mistake (some form)
      (.missingValue (Choice.setting name kind default help).label))
  | _, understood, .choice (.switch letter name help) spelled attached :: later => do
    let switches ← (switchesOf form.allChoices (.switch letter name help) spelled
      attached).mapError (.mistake (some form))
    take form false (← turnOn form understood switches) later

end Understood

/-- What a form understands of words: every name with its value, and the
surplus words. -/
def Form.read (form : Form) (words : List String) :
    Except Stop (List (String × Value) × List String) := do
  let tokens ← (tokensOf form.allChoices words).mapError (.mistake (some form))
  let understood ← Understood.take form false (.start form) tokens
  if !understood.places.isEmpty then
    throw (.mistake (some form) (.missingWords (understood.places.map Place.name)))
  let chosen := form.choices.map fun choice =>
    (choice.name, (understood.values.lookup choice.name).getD choice.default)
  let placed := form.places.map fun place =>
    (place.name, (understood.values.lookup place.name).getD .absent)
  return (placed ++ chosen, understood.surplus)

/-- A command with the values of all its names. -/
structure Request where
  command : Option String
  values : List (String × Value)
  deriving Repr

namespace Program

/-- A request with which no surplus words came. -/
def settle (request : Request) (surplus : List String) : Except Stop Request :=
  if surplus.isEmpty then .ok request
  else .error (.mistake none (.unknownWords surplus))

/-- The request of a command and the words behind it. -/
def readCommand (program : Program) (surplus : List String) (typed : String)
    (words : List String) : Except Stop Request :=
  match program.forms.find? fun form => form.name == typed with
  | none => .error (.mistake none
      (.unknownCommand program.command.name typed (program.forms.map Form.name)))
  | some form => do
    let (values, more) ← form.read words
    settle ⟨some form.name, values⟩ (surplus ++ more)

/-- The request that words make; `surplus` are the words before them that
nothing needs. -/
def readFrom (program : Program) (surplus : List String) : List String → Except Stop Request
  | [] => settle ⟨none, []⟩ surplus
  | typed :: later =>
    if typed = separatorWord then
      if later.isEmpty then settle ⟨none, []⟩ (surplus ++ [typed])
      else program.readCommand surplus typed later
    else
      match classify [Choice.showHelp] typed with
      | .error mistake => .error (.mistake none mistake)
      | .ok (.choice choice spelled attached) =>
        match switchesOf [Choice.showHelp] choice spelled attached with
        | .error mistake => .error (.mistake none mistake)
        | .ok _ => .error (.help none)
      | .ok (.word text) => program.readCommand surplus text later
      | .ok _ => readFrom program (surplus ++ [typed]) later

/-- The request that the words behind a program's name make. -/
def read (program : Program) (words : List String) : Except Stop Request :=
  program.readFrom [] words

end Program
end CommandLine
end ContainerFleet
