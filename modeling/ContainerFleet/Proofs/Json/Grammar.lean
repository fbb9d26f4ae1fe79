import ContainerFleet.Json.Reader
import ContainerFleet.Proofs.Text.Digits

/-!
# The grammar of documents

What a text looks like that spells a document, told without reading it.  Each phrase of
the grammar is a relation between the characters that are written and what they stand
for.  Arrays and objects are phrases around phrases of one level less, so that a text
nested beyond the limit spells nothing.  Where reading meets such nesting is a phrase of
its own: documents that are complete stand before the bracket that goes too deep, and
anything may stand behind it.
-/

namespace ContainerFleet
namespace Json

open Digits

def AllGap (chars : List Char) : Prop :=
  ∀ char ∈ chars, Reader.isGap char = true

/-! ## Strings -/

/-- Four hexadecimal digits and the number that they spell. -/
def SpellsUnit (written : List Char) (unit : Nat) : Prop :=
  ∃ values : List Nat, values.length = 4 ∧ written.map Reader.hexValue? = values.map some ∧
    values.foldl (fun total value => total * 16 + value) 0 = unit

/-- The first half of a surrogate pair. -/
def IsHigh (unit : Nat) : Prop :=
  0xD800 ≤ unit ∧ unit < 0xDC00

/-- The second half of a surrogate pair. -/
def IsLow (unit : Nat) : Prop :=
  0xDC00 ≤ unit ∧ unit < 0xE000

/-- The second half of a pair is escaped at the front. -/
def LowAhead (chars : List Char) : Prop :=
  ∃ written low rest, SpellsUnit written low ∧ IsLow low ∧
    chars = '\\' :: 'u' :: (written ++ rest)

/-- What may stand behind `\u`, what it stands for, and what follows in the string.  Two
halves that stand together are one character, and each alone is the replacement
character. -/
inductive SpellsEscape : List Char → Char → List Char → Prop
  | unit {written behind : List Char} {unit : Nat} : SpellsUnit written unit → ¬ IsHigh unit →
      ¬ IsLow unit → SpellsEscape written (Char.ofNat unit) behind
  | pair {first second behind : List Char} {high low : Nat} : SpellsUnit first high →
      IsHigh high → SpellsUnit second low → IsLow low →
      SpellsEscape (first ++ '\\' :: 'u' :: second)
        (Char.ofNat (0x10000 + (high - 0xD800) * 1024 + (low - 0xDC00))) behind
  | loneHigh {written behind : List Char} {high : Nat} : SpellsUnit written high → IsHigh high →
      ¬ LowAhead behind → SpellsEscape written '\uFFFD' behind
  | loneLow {written behind : List Char} {low : Nat} : SpellsUnit written low → IsLow low →
      SpellsEscape written '\uFFFD' behind

/-- How one character of a string is written, and what follows in the string. -/
inductive SpellsChar : List Char → Char → List Char → Prop
  | plain {char : Char} {behind : List Char} : char ≠ '"' → char ≠ '\\' → 0x20 ≤ char.toNat →
      SpellsChar [char] char behind
  | letter {letter char : Char} {behind : List Char} : Reader.escaped? letter = some char →
      SpellsChar ['\\', letter] char behind
  | escape {written behind : List Char} {char : Char} : SpellsEscape written char behind →
      SpellsChar ('\\' :: 'u' :: written) char behind

/-- The inside of quotes and the characters that it stands for. -/
inductive SpellsChars : List Char → List Char → Prop
  | nil : SpellsChars [] []
  | cons {written more chars : List Char} {char : Char} : SpellsChar written char more →
      SpellsChars more chars → SpellsChars (written ++ more) (char :: chars)

def SpellsString (written : List Char) (text : String) : Prop :=
  ∃ inside, SpellsChars inside text.toList ∧ written = '"' :: (inside ++ ['"'])

/-! ## Numbers -/

/-- The whole part of a number: zero alone, or digits that do not begin with zero. -/
def IsWholePart (digits : List Char) : Prop :=
  digits ≠ [] ∧ AllDigits digits ∧ (digits.head? = some '0' → digits = ['0'])

/-- Nothing, or a point and places. -/
inductive SpellsPlaces : List Char → List Char → Prop
  | none : SpellsPlaces [] []
  | some {places : List Char} : places ≠ [] → AllDigits places → SpellsPlaces ('.' :: places) places

/-- The sign of an exponent, true for minus. -/
inductive SpellsSign : List Char → Bool → Prop
  | none : SpellsSign [] false
  | plus : SpellsSign ['+'] false
  | minus : SpellsSign ['-'] true

/-- Nothing, or an exponent of ten. -/
inductive SpellsPower : List Char → Option Int → Prop
  | none : SpellsPower [] none
  | some {mark : Char} {sign digits : List Char} {negative : Bool} : mark = 'e' ∨ mark = 'E' →
      SpellsSign sign negative → digits ≠ [] → AllDigits digits →
      SpellsPower (mark :: (sign ++ digits))
        (some (if negative then -(value digits : Int) else value digits))

/-- A number behind its sign.  One with places or an exponent is a fraction. -/
inductive SpellsNumber (negative : Bool) : List Char → Json → Prop
  | whole {digits : List Char} : IsWholePart digits → digits.length ≤ Reader.digitLimit →
      SpellsNumber negative digits
        (.whole (if negative then -(value digits : Int) else value digits))
  | fraction {digits point places mark : List Char} {power : Option Int} : IsWholePart digits →
      SpellsPlaces point places → SpellsPower mark power → places ≠ [] ∨ power ≠ none →
      SpellsNumber negative (digits ++ point ++ mark)
        (.fraction (Binary64.ofDecimal negative (value (digits ++ places))
          (power.getD 0 - places.length)))

/-! ## Documents -/

/-- A document that is neither an array nor an object. -/
inductive SpellsScalar : List Char → Json → Prop
  | word {written : List Char} {document : Json} : (written, document) ∈ Reader.words →
      SpellsScalar written document
  | text {written : List Char} {text : String} : SpellsString written text →
      SpellsScalar written (.text text)
  | number {written : List Char} {document : Json} : SpellsNumber false written document →
      SpellsScalar written document
  | negative {written : List Char} {document : Json} : SpellsNumber true written document →
      SpellsScalar ('-' :: written) document

section Items

variable {α : Type} (spells : List Char → α → Prop)

/-- Items with commas between them.  There may be gaps around each comma and at the end. -/
inductive SpellsItems : List Char → List α → Prop
  | last {written gap : List Char} {item : α} : spells written item → AllGap gap →
      SpellsItems (written ++ gap) [item]
  | next {written gap wide more : List Char} {item : α} {items : List α} : spells written item →
      AllGap gap → AllGap wide → SpellsItems more items →
      SpellsItems (written ++ gap ++ ',' :: (wide ++ more)) (item :: items)

/-- What may stand between an opening and a closing character. -/
inductive SpellsInside : List Char → List α → Prop
  | empty {gap : List Char} : AllGap gap → SpellsInside gap []
  | items {gap more : List Char} {items : List α} : AllGap gap → SpellsItems spells more items →
      SpellsInside (gap ++ more) items

/-- Any number of items, each with a comma behind it. -/
inductive BeginsItems : List Char → Prop
  | none : BeginsItems []
  | next {written gap wide more : List Char} {item : α} : spells written item → AllGap gap →
      AllGap wide → BeginsItems more →
      BeginsItems (written ++ gap ++ ',' :: (wide ++ more))

end Items

/-- A key with the colon behind it. -/
def SpellsKey (written : List Char) (key : String) : Prop :=
  ∃ name gap wide, SpellsString name key ∧ AllGap gap ∧ AllGap wide ∧
    written = name ++ gap ++ ':' :: wide

def SpellsMember (spells : List Char → Json → Prop) (written : List Char)
    (member : String × Json) : Prop :=
  ∃ front back, SpellsKey front member.1 ∧ spells back member.2 ∧ written = front ++ back

/-- A document with at most `depth` levels of arrays and objects. -/
def Spells : (depth : Nat) → List Char → Json → Prop
  | 0, written, document => SpellsScalar written document
  | depth + 1, written, document =>
    SpellsScalar written document ∨
    (∃ inside items, SpellsInside (Spells depth) inside items ∧
      written = '[' :: (inside ++ [']']) ∧ document = .array items) ∨
    ∃ inside members, SpellsInside (SpellsMember (Spells depth)) inside members ∧
      written = '\x7b' :: (inside ++ ['\x7d']) ∧ document = .object (Table.ofEntries members)

/-- More than `depth` arrays and objects are open before anything is wrong. -/
def OpensTooDeep : (depth : Nat) → List Char → Prop
  | 0, chars => ∃ rest, chars = '[' :: rest ∨ chars = '\x7b' :: rest
  | depth + 1, chars =>
    (∃ gap begun rest, AllGap gap ∧ BeginsItems (Spells depth) begun ∧ OpensTooDeep depth rest ∧
      chars = '[' :: (gap ++ (begun ++ rest))) ∨
    ∃ gap begun front key rest, AllGap gap ∧ BeginsItems (SpellsMember (Spells depth)) begun ∧
      SpellsKey front key ∧ OpensTooDeep depth rest ∧
      chars = '\x7b' :: (gap ++ (begun ++ (front ++ rest)))

/-- A text that is a document of at most so many levels, with gaps around it. -/
def IsDocument (levels : Nat) (text : String) (document : Json) : Prop :=
  ∃ gap written wide, AllGap gap ∧ Spells levels written document ∧ AllGap wide ∧
    text.toList = gap ++ (written ++ wide)

/-- A text in which arrays and objects are nested beyond so many levels. -/
def IsTooDeep (levels : Nat) (text : String) : Prop :=
  ∃ gap rest, AllGap gap ∧ OpensTooDeep levels rest ∧ text.toList = gap ++ rest

end Json
end ContainerFleet
