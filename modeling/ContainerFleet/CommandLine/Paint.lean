/-!
# Painted text

Text for a terminal, in a colour where the terminal takes colours.
-/

namespace ContainerFleet
namespace CommandLine

inductive Colour where
  | green
  | yellow
  | red
  | blue
  | bold
  | plain
  deriving DecidableEq, Repr

namespace Colour

/-- The number of a colour between the bracket and the letter of its sequence. -/
def code : Colour → String
  | .green => "92"
  | .yellow => "93"
  | .red => "91"
  | .blue => "94"
  | .bold => "1"
  | .plain => "0"

/-- The sequence that switches to a colour. -/
def switch (colour : Colour) : String :=
  "\x1b[" ++ colour.code ++ "m"

end Colour

/-- A text in a colour, or as it is where colours are not taken. -/
def paint (coloured : Bool) (colour : Colour) (text : String) : String :=
  if coloured then colour.switch ++ text ++ Colour.plain.switch else text

/-- A text with blanks behind it up to `width` characters. -/
def padRight (width : Nat) (text : String) : String :=
  text ++ String.ofList (List.replicate (width - text.length) ' ')

/-- At most the first `count` characters of a text. -/
def clip (count : Nat) (text : String) : String :=
  String.ofList (text.toList.take count)

end CommandLine
end ContainerFleet
