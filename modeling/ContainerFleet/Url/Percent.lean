import ContainerFleet.Text.Quoted
import ContainerFleet.Text.Utf8

/-!
# Spelling out characters

A character that may not stand in a part of an address is spelled out: each
octet of it as a percent sign and two hexadecimal digits.  A percent sign
stands for itself, so what is already spelled out stays as it is.
-/

namespace ContainerFleet
namespace Url

/-- The octets of a character, spelled out. -/
def spelledOut (char : Char) : List Char :=
  (Utf8.encodeText (String.singleton char)).flatMap fun octet =>
    '%' :: (Text.hexText 2 octet.toNat).map Char.toUpper

/-- A text in which the characters that may not stand there are spelled out. -/
def escape (mayStand : Char → Bool) (chars : List Char) : List Char :=
  chars.flatMap fun char => if mayStand char then [char] else spelledOut char

/-- Everything printable in ASCII, without some characters. -/
def printableBut (excluded : List Char) (char : Char) : Bool :=
  0x20 ≤ char.toNat && char.toNat < 0x7f && !excluded.contains char

/-- What is spelled out in a fragment. -/
def fragmentMarks : List Char := [' ', '"', '<', '>', '\x60']

/-- What is spelled out in a query. -/
def queryMarks : List Char := [' ', '"', '#', '<', '>']

/-- What is spelled out in a path. -/
def pathMarks : List Char := queryMarks ++ ['?', '\x60', '\x7b', '\x7d']

/-- What is spelled out in the name of a user and what belongs to it. -/
def userMarks : List Char := pathMarks ++ ['/', ';', '=', '@', '[', '\\', ']', '^', '|']

/-- What may stand in the name of a host. -/
def isHostChar (char : Char) : Bool :=
  char.isAlphanum || ['-', '.', '_', '~', '!', '$', '&', '\'', '(', ')', '*', '+', ',', ';', '=',
    '"', '\x60', '\x7b', '\x7d', '%', '|', '\\'].contains char

end Url
end ContainerFleet
