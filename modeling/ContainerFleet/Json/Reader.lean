import ContainerFleet.Json.Basic
import ContainerFleet.Number.Binary64
import ContainerFleet.Table
import ContainerFleet.Text.Digits

/-!
# Reading documents

A reader for one document that fills the whole text.  Besides the standard
grammar it takes `NaN`, `Infinity` and `-Infinity` as numbers.  Of equal keys
in one object the last value counts.  Whole numbers of more than 4300 digits
are refused.

Nesting beyond some number of levels is refused as well, and told apart from
text that is no document.  How many levels there are is not for the reader to
say: it shares them with whoever calls it, and they are not the same
everywhere.  So they are given to it with the text.
-/

namespace ContainerFleet
namespace Json

/-- Why a text was not read. -/
inductive ReadError where
  | malformed
  | tooDeep
  deriving DecidableEq, Repr

/-- What a reader of the front of a text answers: a value and the rest. -/
abbrev Front (α : Type) := Except ReadError (α × List Char)

namespace Reader

/-- The levels where none are given.  Nothing is said of them in particular. -/
def usualLevels : Nat := 1000

/-- How many digits a whole number may have. -/
def digitLimit : Nat := 4300

def isGap (char : Char) : Bool :=
  char = ' ' || char = '\t' || char = '\n' || char = '\r'

/-- Drop the gap before a token. -/
def skipGap (chars : List Char) : List Char :=
  chars.dropWhile isGap

/-- The value of a hexadecimal digit. -/
def hexValue? (char : Char) : Option Nat :=
  if char.isDigit then some (char.toNat - '0'.toNat)
  else if 'a' ≤ char ∧ char ≤ 'f' then some (char.toNat - 'a'.toNat + 10)
  else if 'A' ≤ char ∧ char ≤ 'F' then some (char.toNat - 'A'.toNat + 10)
  else none

/-- Four hexadecimal digits as one number. -/
def hexUnit? : List Char → Option (Nat × List Char)
  | a :: b :: c :: d :: rest => do
    let a ← hexValue? a
    let b ← hexValue? b
    let c ← hexValue? c
    let d ← hexValue? d
    return (((a * 16 + b) * 16 + c) * 16 + d, rest)
  | _ => none

/-- The character that a single letter behind a backslash stands for. -/
def escaped? : Char → Option Char
  | '"' => some '"'
  | '\\' => some '\\'
  | '/' => some '/'
  | 'b' => some '\x08'
  | 'f' => some '\x0c'
  | 'n' => some '\n'
  | 'r' => some '\r'
  | 't' => some '\t'
  | _ => none

/-- A unit behind `\u`; the first half of a surrogate pair takes the second
half with it, and a half that stands alone is read as the replacement
character. -/
def escapedUnit? (chars : List Char) : Option (Char × List Char) := do
  let (unit, rest) ← hexUnit? chars
  if 0xD800 ≤ unit ∧ unit < 0xDC00 then
    match rest with
    | '\\' :: 'u' :: more =>
      match hexUnit? more with
      | some (second, after) =>
        if 0xDC00 ≤ second ∧ second < 0xE000 then
          return (Char.ofNat (0x10000 + (unit - 0xD800) * 1024 + (second - 0xDC00)), after)
        else return ('\uFFFD', rest)
      | none => return ('\uFFFD', rest)
    | _ => return ('\uFFFD', rest)
  else if 0xDC00 ≤ unit ∧ unit < 0xE000 then return ('\uFFFD', rest)
  else return (Char.ofNat unit, rest)

/-- The characters of a string up to its closing quote, behind those already
`read` (latest first).  `fuel` bounds the characters and escapes taken. -/
def stringBody : (fuel : Nat) → (read : List Char) → List Char → Front String
  | 0, _, _ => .error .malformed
  | _ + 1, _, [] => .error .malformed
  | fuel + 1, read, char :: rest =>
    if char = '"' then .ok (String.ofList read.reverse, rest)
    else if char = '\\' then
      match rest with
      | 'u' :: digits =>
        match escapedUnit? digits with
        | some (unit, after) => stringBody fuel (unit :: read) after
        | none => .error .malformed
      | letter :: after =>
        match escaped? letter with
        | some plain => stringBody fuel (plain :: read) after
        | none => .error .malformed
      | [] => .error .malformed
    else if char.toNat < 0x20 then .error .malformed
    else stringBody fuel (char :: read) rest

/-- A string whose opening quote has been read. -/
def string (chars : List Char) : Front String :=
  stringBody (chars.length + 1) [] chars

/-- The whole part of a number: zero alone, or digits that do not begin with
zero. -/
def wholeDigits? : List Char → Option (List Char × List Char)
  | '0' :: rest => some (['0'], rest)
  | char :: rest => if char.isDigit then some (Digits.split (char :: rest)) else none
  | [] => none

/-- A point and digits, where there are any. -/
def fractionDigits (chars : List Char) : List Char × List Char :=
  match chars with
  | '.' :: rest => if (Digits.split rest).1.isEmpty then ([], chars) else Digits.split rest
  | _ => ([], chars)

/-- An exponent of ten, where one is written. -/
def exponent? : List Char → Option (Int × List Char)
  | mark :: rest =>
    if mark = 'e' ∨ mark = 'E' then
      let (negative, rest) := match rest with
        | '-' :: rest => (true, rest)
        | '+' :: rest => (false, rest)
        | _ => (false, rest)
      let (digits, rest) := Digits.split rest
      if digits.isEmpty then none
      else
        let size : Int := Digits.value digits
        some (if negative then -size else size, rest)
    else none
  | [] => none

/-- A number, after its sign. -/
def number (negative : Bool) (chars : List Char) : Front Json :=
  match wholeDigits? chars with
  | none => .error .malformed
  | some (digits, rest) =>
    let (places, rest) := fractionDigits rest
    let exponent := exponent? rest
    if places.isEmpty && exponent.isNone then
      if digitLimit < digits.length then .error .malformed
      else
        let size : Int := Digits.value digits
        .ok (.whole (if negative then -size else size), rest)
    else
      let (power, rest) := exponent.getD (0, rest)
      .ok (.fraction (Binary64.ofDecimal negative (Digits.value (digits ++ places))
        (power - places.length)), rest)

/-- The words that stand for a value. -/
def words : List (List Char × Json) :=
  [("null".toList, .null), ("true".toList, .bool true), ("false".toList, .bool false),
   ("NaN".toList, .fraction Binary64.notANumber), ("Infinity".toList, .fraction Binary64.infinity),
   ("-Infinity".toList, .fraction (Binary64.negate Binary64.infinity))]

/-- A word at the front of a text. -/
def word? (chars : List Char) : Option (Json × List Char) :=
  words.findSome? fun (word, value) =>
    if word.isPrefixOf chars then some (value, chars.drop word.length) else none

/-- A document that is neither an array nor an object. -/
def scalar (chars : List Char) : Front Json :=
  match word? chars with
  | some found => .ok found
  | none =>
    match chars with
    | '"' :: rest => (string rest).map fun (value, rest) => (.text value, rest)
    | '-' :: rest => number true rest
    | _ => number false chars

/-- Items with commas between them up to the closing character, behind those
already `read` (latest first).  The front of the text is an item. -/
def itemsFrom {α : Type} (item : List Char → Front α) (close : Char) :
    (fuel : Nat) → (read : List α) → List Char → Except ReadError (List α × List Char)
  | 0, _, _ => .error .malformed
  | fuel + 1, read, chars => do
    let (value, rest) ← item chars
    match skipGap rest with
    | ',' :: rest => itemsFrom item close fuel (value :: read) (skipGap rest)
    | char :: rest =>
      if char = close then return ((value :: read).reverse, rest) else throw .malformed
    | [] => throw .malformed

/-- Any number of items, the opening character having been read. -/
def items {α : Type} (item : List Char → Front α) (close : Char) (chars : List Char) :
    Front (List α) :=
  match skipGap chars with
  | [] => .error .malformed
  | char :: rest =>
    if char = close then .ok ([], rest)
    else itemsFrom item close (rest.length + 1) [] (char :: rest)

/-- A key, a colon and a value. -/
def entry (value : List Char → Front Json) :
    List Char → Except ReadError ((String × Json) × List Char)
  | '"' :: rest => do
    let (key, rest) ← string rest
    match skipGap rest with
    | ':' :: rest => do
      let (value, rest) ← value (skipGap rest)
      return ((key, value), rest)
    | _ => throw .malformed
  | _ => .error .malformed

/-- A document at the front of a text, with at most `depth` levels of arrays
and objects.  The limit counts when the opening character is met. -/
def value : (depth : Nat) → List Char → Front Json
  | depth, '[' :: rest =>
    match depth with
    | 0 => .error .tooDeep
    | depth + 1 => (items (value depth) ']' rest).map fun (read, rest) => (.array read, rest)
  | depth, '{' :: rest =>
    match depth with
    | 0 => .error .tooDeep
    | depth + 1 =>
      (items (entry (value depth)) '}' rest).map fun (read, rest) =>
        (.object (Table.ofEntries read), rest)
  | _, chars => scalar chars

end Reader

/-- The document that a text spells, with at most so many levels of arrays and
objects. -/
def read (text : String) (levels : Nat := Reader.usualLevels) : Except ReadError Json := do
  let (document, rest) ← Reader.value levels (Reader.skipGap text.toList)
  if (Reader.skipGap rest).isEmpty then return document else throw .malformed

end Json
end ContainerFleet
