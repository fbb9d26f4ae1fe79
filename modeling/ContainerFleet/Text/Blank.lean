/-!
# Blank characters

Which characters count as blank around a token, and the removal of blanks at
the two ends of a text.  The set is the Unicode one: the twenty-nine
characters that separate words or lines, the four ASCII information
separators among them.
-/

namespace ContainerFleet
namespace Text

/-- The blank characters outside ASCII, in order of code point. -/
def wideBlanks : List Char :=
  ['\u0085', '\u00a0', '\u1680', '\u2000', '\u2001', '\u2002', '\u2003', '\u2004', '\u2005',
   '\u2006', '\u2007', '\u2008', '\u2009', '\u200a', '\u2028', '\u2029', '\u202f', '\u205f',
   '\u3000']

/-- A character that is dropped at the ends of a text. -/
def isBlank (char : Char) : Bool :=
  (0x09 ≤ char.toNat && char.toNat ≤ 0x0d) || (0x1c ≤ char.toNat && char.toNat ≤ 0x20)
    || wideBlanks.contains char

/-- Drop, at the front and at the back, the characters that satisfy `drop`. -/
def stripBoth (drop : Char → Bool) (chars : List Char) : List Char :=
  ((chars.dropWhile drop).reverse.dropWhile drop).reverse

/-- A text without blanks at its ends. -/
def trim (chars : List Char) : List Char :=
  stripBoth isBlank chars

/-- A string without blanks at its ends. -/
def trimmed (text : String) : String :=
  String.ofList (trim text.toList)

end Text
end ContainerFleet
