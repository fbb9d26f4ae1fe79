import ContainerFleet.Text.Unprintable

/-!
# Quoted text in messages

A text between quotes in which everything unprintable is spelled out.  Single
quotes enclose it, double ones where the text holds single quotes and no
double ones.
-/

namespace ContainerFleet
namespace Text

/-- The lengths of the three ways to spell a code point in hexadecimal. -/
def hexText (width value : Nat) : List Char :=
  let digits := Nat.toDigits 16 value
  List.replicate (width - digits.length) '0' ++ digits

/-- A character between quotes. -/
def quoteChar (mark char : Char) : List Char :=
  if char = mark || char = '\\' then ['\\', char]
  else if char = '\n' then ['\\', 'n']
  else if char = '\r' then ['\\', 'r']
  else if char = '\t' then ['\\', 't']
  else if isHidden char then
    if char.toNat < 0x100 then '\\' :: 'x' :: hexText 2 char.toNat
    else if char.toNat < 0x10000 then '\\' :: 'u' :: hexText 4 char.toNat
    else '\\' :: 'U' :: hexText 8 char.toNat
  else [char]

/-- The text between quotes. -/
def quoted (text : String) : String :=
  let chars := text.toList
  let mark := if chars.contains '\'' && !chars.contains '"' then '"' else '\''
  String.ofList (mark :: chars.flatMap (quoteChar mark) ++ [mark])

example : quoted "a\nb" = "'a\\nb'" := by decide +kernel

end Text
end ContainerFleet
