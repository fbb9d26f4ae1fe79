import ContainerFleet.Text.Capital
import ContainerFleet.Text.Split
import ContainerFleet.Url.NameChar
import ContainerFleet.Url.Punycode

/-!
# Host names of all scripts

A host name consists of labels with dots between them.  One with characters
outside ASCII is written in ASCII label by label, in small letters; it must
keep to the characters and the lengths of host names.
-/

namespace ContainerFleet
namespace Url

/-- The dots of all scripts. -/
def dots : List Char := ['.', '\u3002', '\uff0e', '\uff61']

/-- The mark before a label that is written in ASCII. -/
def labelMark : List Char := "xn--".toList

/-- A label without a hyphen at its ends or two in the third place. -/
def hyphensFit (label : List Char) : Bool :=
  label.head? ≠ some '-' && label.getLast? ≠ some '-' && (label.drop 2).take 2 ≠ ['-', '-']

/-- The length that a label may have. -/
def labelLimit : Nat := 63

/-- A label as it is written in ASCII. -/
def labelText? (label : List Char) : Option (List Char) :=
  let plain := label.all fun char => char.toNat < 0x80
  let rest := label.drop labelMark.length
  let written := if plain then label else labelMark ++ Punycode.encode label
  let fits :=
    if plain && labelMark.isPrefixOf label then
      !rest.isEmpty && rest.getLast? ≠ some '-' && rest.all isNameChar
    else !label.isEmpty && hyphensFit label && label.all isNameChar
  if fits && written.length ≤ labelLimit then some written else none

/-- The length that a name may have, without a dot at its end. -/
def nameLimit : Nat := 253

/-- A host name as it is written in ASCII. -/
def nameText? (host : List Char) : Option (List Char) := do
  let plainDots := (Text.smallLetters host).map fun char => if dots.contains char then '.' else char
  let labels := Text.splitAt '.' plainDots
  let closed := labels.getLast? = some []
  let written ← (if closed then labels.dropLast else labels).mapM labelText?
  let name := List.intercalate ['.'] written
  if name.isEmpty || nameLimit < name.length then none
  else return if closed then name ++ ['.'] else name

end Url
end ContainerFleet
