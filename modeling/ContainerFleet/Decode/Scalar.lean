import ContainerFleet.Decode.Checked
import ContainerFleet.Json.Basic
import ContainerFleet.Number.Binary64
import ContainerFleet.Text.Blank
import ContainerFleet.Text.Digits

/-!
# Lenient scalars

Numbers and flags are taken in several spellings: a whole number also from a
fraction without places, from a flag and from text, a flag also from the
usual words.  Text is only taken as it is.
-/

namespace ContainerFleet
namespace Decode

/-- What decodes a document. -/
abbrev Decoder (α : Type) := Json → Checked α

/-- A blank around the text of a number.  The four information separators do
not count here. -/
def isNumberBlank (char : Char) : Bool :=
  Text.isBlank char && !(0x1c ≤ char.toNat && char.toNat ≤ 0x1f)

/-- A sign at the front, true for minus, and the rest. -/
def splitSign : List Char → Bool × List Char
  | '-' :: rest => (true, rest)
  | '+' :: rest => (false, rest)
  | chars => (false, chars)

/-- Digits with single underscores between them, and what follows. -/
def underscoredDigits : List Char → List Char × List Char
  | first :: '_' :: second :: rest =>
    if first.isDigit && second.isDigit then
      let (digits, rest) := underscoredDigits (second :: rest)
      (first :: digits, rest)
    else if first.isDigit then ([first], '_' :: second :: rest)
    else ([], first :: '_' :: second :: rest)
  | first :: rest =>
    if first.isDigit then
      let (digits, rest) := underscoredDigits rest
      (first :: digits, rest)
    else ([], first :: rest)
  | [] => ([], [])

/-- A number with the sign given. -/
def withSign (negative : Bool) (size : Nat) : Int :=
  if negative then -(size : Int) else size

/-- How many digits the text of a whole number may have. -/
def wholeDigitLimit : Nat := 4300

/-- A text without its underscores, where each stands alone and inside. -/
def withoutUnderscores? (chars : List Char) : Option (List Char) :=
  if chars.head? = some '_' || chars.getLast? = some '_' then none
  else if (chars.zip (chars.drop 1)).contains ('_', '_') then none
  else some (chars.filter (· ≠ '_'))

/-- What a number's text holds after the zeros that open it, where `last` is
the zero or underscore before this text.  Zeros and underscores are passed
over up to the first other digit, or to a sign; a point keeps the character
before it, and a text of nothing else its last. -/
def pastZeros? (last : Char) : List Char → Option (List Char)
  | [] => some [last]
  | char :: rest =>
    if char = '0' ∨ char = '_' then pastZeros? char rest
    else if char.isDigit ∨ char = '-' then some (char :: rest)
    else if char = '.' then some (last :: char :: rest)
    else none

/-- A number's text without the zeros that open it.  It opens with a digit or
a minus. -/
def withoutOpeningZeros? : List Char → Option (List Char)
  | [] => none
  | first :: rest =>
    if first = '0' then pastZeros? first rest
    else if first.isDigit ∨ first = '-' then some (first :: rest)
    else none

/-- A text without a point and zeros at its end. -/
def withoutZeroPlaces (chars : List Char) : List Char :=
  let places := (chars.dropWhile (· ≠ '.')).drop 1
  if !places.isEmpty && places.all (· = '0') then chars.takeWhile (· ≠ '.') else chars

/-- A whole number in its plain form: a minus or nothing, then digits that do
not open with a needless zero.  The sign counts toward the limit, and what
follows too long a number does not matter. -/
def wholeOfPlain (chars : List Char) : Checked Int :=
  let negative := chars.head? = some '-'
  let (digits, rest) := Digits.split (if negative then chars.drop 1 else chars)
  if digits.head? = some '0' && digits.length ≠ 1 then .problem .wholeText
  else if wholeDigitLimit < digits.length + (if negative then 1 else 0) then
    .problem .wholeTooLong
  else if digits.isEmpty || !rest.isEmpty then .problem .wholeText
  else .ok (withSign negative (Digits.value digits))

/-- A whole number from its text: opening zeros, places that are all zero and
single underscores are taken away, and what is left is in plain form. -/
def wholeOfText (text : String) : Checked Int :=
  let (negative, chars) := splitSign (Text.stripBoth isNumberBlank text.toList)
  match withoutOpeningZeros? chars with
  | none => .problem .wholeText
  | some chars =>
    let chars := withoutZeroPlaces chars
    let chars := (withoutUnderscores? chars).getD chars
    wholeOfPlain (if negative then '-' :: chars else chars)

/-- A whole number from a fraction.  One at or beyond the 64-bit range is
refused, even where it has no places. -/
def wholeOfFraction (value : Float) : Checked Int :=
  match Binary64.parts? value with
  | none => .problem .notFinite
  | some parts =>
    if !parts.isWhole then .problem .wholeFromFraction
    else if parts.truncated.natAbs < 0x8000000000000000 then .ok parts.truncated
    else .problem .wholeTooLong

def whole : Decoder Int
  | .whole value => .ok value
  | .bool value => .ok (if value then 1 else 0)
  | .fraction value => wholeOfFraction value
  | .text value => wholeOfText value
  | _ => .problem .notWhole

/-- The exponent at the end of a fraction's text; zero where there is none. -/
def exponentOfText? : List Char → Option Int
  | [] => some 0
  | mark :: rest =>
    if mark = 'e' ∨ mark = 'E' then
      let (negative, chars) := splitSign rest
      if !chars.isEmpty && chars.all Char.isDigit then
        some (withSign negative (Digits.value chars))
      else none
    else none

/-- A fraction from digits, a point and an exponent, without its sign. -/
def plainFraction? (negative : Bool) (chars : List Char) : Option Float := do
  let (before, rest) := Digits.split chars
  let (after, rest) := match rest with
    | '.' :: rest => Digits.split rest
    | _ => ([], rest)
  if before.isEmpty && after.isEmpty then none
  else
    let exponent ← exponentOfText? rest
    return Binary64.ofDecimal negative (Digits.value (before ++ after))
      (exponent - after.length)

/-- A fraction from all of a text without underscores: a decimal, or one of
the words for infinity and for what is not a number, in any letter case. -/
def fractionOfPlain? (chars : List Char) : Option Float :=
  let (negative, chars) := splitSign chars
  let word := String.ofList (chars.map Char.toLower)
  if word = "inf" || word = "infinity" then
    some (if negative then Binary64.negate Binary64.infinity else Binary64.infinity)
  else if word = "nan" then some Binary64.notANumber
  else plainFraction? negative chars

/-- A fraction from its text.  There may be blanks around it or single
underscores in it, but not both. -/
def fractionOfText (text : String) : Checked Float :=
  let plain := fractionOfPlain? (Text.stripBoth isNumberBlank text.toList)
  match plain <|> (withoutUnderscores? text.toList).bind fractionOfPlain? with
  | some value => .ok value
  | none => .problem .fractionText

def fraction : Decoder Float
  | .fraction value => .ok value
  | .whole value =>
    match Binary64.ofInt value with
    | .ok value => .ok value
    | .error _ => .problem .notFraction
  | .bool value => .ok (if value then 1.0 else 0.0)
  | .text value => fractionOfText value
  | _ => .problem .notFraction

/-- The words for yes and no. -/
def flagOfText? (text : String) : Option Bool :=
  let word := String.ofList (text.toList.map Char.toLower)
  if ["1", "on", "t", "true", "y", "yes"].contains word then some true
  else if ["0", "off", "f", "false", "n", "no"].contains word then some false
  else none

/-- A whole number as a flag.  One outside the 64-bit range is no kind of
flag at all. -/
def flagOfWhole (value : Int) : Checked Bool :=
  if value = 1 then .ok true
  else if value = 0 then .ok false
  else if -0x8000000000000000 ≤ value && value < 0x8000000000000000 then .problem .flagText
  else .problem .notFlag

def flag : Decoder Bool
  | .bool value => .ok value
  | .whole value => flagOfWhole value
  | .fraction value =>
    match wholeOfFraction value with
    | .ok value => flagOfWhole value
    | .failed _ => .problem .notFlag
  | .text value =>
    match flagOfText? value with
    | some value => .ok value
    | none => .problem .flagText
  | _ => .problem .notFlag

def text : Decoder String
  | .text value => .ok value
  | _ => .problem .notText

/-- Any document, as it is. -/
def anything : Decoder Json := .ok

end Decode
end ContainerFleet
