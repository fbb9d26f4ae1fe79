import ContainerFleet.Text.Blank

/-!
# Colour sequences

A colour sequence is an escape character, an opening bracket, any digits and
semicolons, and the letter `m`.  Cleaning removes those that stand in a text,
from the front on, and the blanks at its ends.
-/

namespace ContainerFleet
namespace Log

def escape : Char := '\x1b'

/-- A character between the bracket and the letter. -/
def isColourCode (char : Char) : Bool :=
  char.isDigit || char = ';'

/-- What follows a colour sequence whose escape character has been read. -/
def afterColour? : List Char → Option (List Char)
  | '[' :: rest =>
    match rest.dropWhile isColourCode with
    | 'm' :: after => some after
    | _ => none
  | _ => none

theorem length_of_afterColour? {chars after : List Char} (found : afterColour? chars = some after) :
    after.length < chars.length := by
  unfold afterColour? at found
  split at found
  · rename_i rest
    split at found
    · rename_i tail dropped
      cases found
      have shorter : (rest.dropWhile isColourCode).length ≤ rest.length :=
        (List.dropWhile_sublist _).length_le
      rw [dropped] at shorter
      simp only [List.length_cons] at shorter ⊢
      omega
    · cases found
  · cases found

/-- Put the characters outside colour sequences behind those already `kept`
(latest first). -/
def removeColoursFrom (kept : List Char) : List Char → List Char
  | [] => kept.reverse
  | char :: rest =>
    if char = escape then
      match _found : afterColour? rest with
      | some after => removeColoursFrom kept after
      | none => removeColoursFrom (char :: kept) rest
    else removeColoursFrom (char :: kept) rest
  termination_by chars => chars.length
  decreasing_by
    · have := length_of_afterColour? _found
      simp only [List.length_cons]
      omega
    all_goals simp

/-- A text without the colour sequences in it. -/
def removeColours (chars : List Char) : List Char :=
  removeColoursFrom [] chars

/-- A message as it is kept: without colour sequences, then without blanks at
its ends. -/
def cleanMessage (chars : List Char) : List Char :=
  Text.trim (removeColours chars)

end Log
end ContainerFleet
