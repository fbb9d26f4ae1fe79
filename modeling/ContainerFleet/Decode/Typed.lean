import ContainerFleet.Decode.Scalar
import ContainerFleet.Text.DecimalDigit

/-!
# Typed numbers

Numbers as a user may type them: with blanks around them, in the digits of any
script, and with single underscores between two digits.
-/

namespace ContainerFleet
namespace Decode

/-- A typed word without blanks around it and in plain digits. -/
def plainWord (text : String) : List Char :=
  (Text.stripBoth isNumberBlank text.toList).map Text.plainDigit

/-- A whole number from a typed word. -/
def wholeOfWord? (text : String) : Option Int :=
  let (negative, chars) := splitSign (plainWord text)
  let (digits, rest) := underscoredDigits chars
  if digits.isEmpty || !rest.isEmpty || wholeDigitLimit < digits.length then none
  else some (withSign negative (Digits.value digits))

/-- Every underscore stands between two digits. -/
def underscoresFit (before : Bool) : List Char → Bool
  | [] => true
  | '_' :: rest => before && (rest.head?.any Char.isDigit) && underscoresFit false rest
  | char :: rest => underscoresFit char.isDigit rest

/-- A fraction from a typed word. -/
def fractionOfWord? (text : String) : Option Float :=
  let word := plainWord text
  if underscoresFit false word then
    match fractionOfText (String.ofList word) with
    | .ok value => some value
    | .failed _ => none
  else none

end Decode
end ContainerFleet
