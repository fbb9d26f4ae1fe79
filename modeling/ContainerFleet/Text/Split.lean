/-!
# Splitting at a character

A text cut at every occurrence of one character, or into lines; the pieces may
be empty.
-/

namespace ContainerFleet
namespace Text

/-- The pieces between the occurrences of a separator. -/
def splitAt (separator : Char) : List Char → List (List Char)
  | [] => [[]]
  | char :: rest =>
    match splitAt separator rest with
    | [] => [[]]
    | piece :: later =>
      if char = separator then [] :: piece :: later else (char :: piece) :: later

/-- The text before the first occurrence of a character and the text after
it, if the character occurs. -/
def cutAt? (separator : Char) (chars : List Char) : Option (List Char × List Char) :=
  match chars.dropWhile (· ≠ separator) with
  | [] => none
  | _ :: after => some (chars.takeWhile (· ≠ separator), after)

/-- The characters that end a line: line feed and carriage return, the
vertical tab and the form feed, three of the information separators, and the
line ends outside ASCII. -/
def lineEnds : List Char :=
  ['\n', '\x0b', '\x0c', '\r', '\x1c', '\x1d', '\x1e', '\u0085', '\u2028', '\u2029']

/-- The pieces between the ends of lines. -/
def linesOf (chars : List Char) : List (List Char) :=
  splitAt '\n' (chars.map fun char => if lineEnds.contains char then '\n' else char)

theorem splitAt_ne_nil (separator : Char) (chars : List Char) : splitAt separator chars ≠ [] := by
  cases chars with
  | nil => simp [splitAt]
  | cons char rest =>
    simp only [splitAt]
    split
    · simp
    · split <;> simp

end Text
end ContainerFleet
