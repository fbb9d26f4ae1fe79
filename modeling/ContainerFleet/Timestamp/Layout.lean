import ContainerFleet.Timestamp.Fields

/-!
# Timestamp layouts

The eight written forms in which a timestamp is recognised.  A layout is a
list of elements; the same list says how a text is read into fields and how
fields are written.  No element can be read in two ways before the element
that follows it, so reading needs no search.
-/

namespace ContainerFleet
namespace Timestamp

def monthNames : List (List Char) :=
  ["Jan", "Feb", "Mar", "Apr", "May", "Jun", "Jul", "Aug", "Sep", "Oct", "Nov", "Dec"].map
    String.toList

def weekdayNames : List (List Char) :=
  ["Mon", "Tue", "Wed", "Thu", "Fri", "Sat", "Sun"].map String.toList

/-- One part of a layout. -/
inductive Element where
  | literal (char : Char)
  | year
  | month
  | monthName
  | weekday
  | day
  /-- One or two blanks and a day of one or two digits. -/
  | looseDay
  /-- Hour, minute and second, two digits each, with colons. -/
  | clock
  /-- A point and at least one digit, or nothing. -/
  | fraction
  /-- `Z`, or a sign and hours and minutes with a colon. -/
  | zone
  /-- A sign and hours and minutes without a colon. -/
  | compactZone
  /-- Three to five capitals, which carry no shift. -/
  | zoneName
  deriving DecidableEq, Repr

namespace Element

/-- A number of exactly `count` digits. -/
def number? (count : Nat) (chars : List Char) : Option (Nat × List Char) :=
  (Digits.take? count chars).map fun (digits, rest) => (Digits.value digits, rest)

/-- One given character. -/
def char? (expected : Char) : List Char → Option (List Char)
  | char :: rest => if char = expected then some rest else none
  | [] => none

/-- A plus or a minus sign; true for plus. -/
def sign? : List Char → Option (Bool × List Char)
  | '+' :: rest => some (true, rest)
  | '-' :: rest => some (false, rest)
  | _ => none

/-- The position of the three-letter name at the front among `names`. -/
def name? (names : List (List Char)) (chars : List Char) : Option (Nat × List Char) :=
  (names.findIdx? (· == chars.take 3)).map fun index => (index, chars.drop 3)

/-- One or two digits, as many as there are. -/
def shortNumber? (chars : List Char) : Option (Nat × List Char) :=
  (number? 2 chars).or (number? 1 chars)

/-- Read one element at the front of a text into the fields. -/
def read (element : Element) (fields : Fields) (chars : List Char) :
    Option (Fields × List Char) :=
  match element with
  | .literal expected => (char? expected chars).map fun rest => (fields, rest)
  | .year => do
    let (value, rest) ← number? 4 chars
    return ({ fields with date.year := value }, rest)
  | .month => do
    let (value, rest) ← number? 2 chars
    return ({ fields with date.month := value }, rest)
  | .monthName => do
    let (index, rest) ← name? monthNames chars
    return ({ fields with date.month := index + 1 }, rest)
  | .weekday => do
    let (_, rest) ← name? weekdayNames chars
    return (fields, rest)
  | .day => do
    let (value, rest) ← number? 2 chars
    return ({ fields with date.day := value }, rest)
  | .looseDay => do
    let rest ← char? ' ' chars
    let (value, rest) ← shortNumber? ((char? ' ' rest).getD rest)
    return ({ fields with date.day := value }, rest)
  | .clock => do
    let (hour, rest) ← number? 2 chars
    let (minute, rest) ← number? 2 (← char? ':' rest)
    let (second, rest) ← number? 2 (← char? ':' rest)
    return ({ fields with hour := hour, minute := minute, second := second }, rest)
  | .fraction =>
    match chars with
    | '.' :: digit :: rest =>
      if digit.isDigit then
        let (digits, rest) := Digits.split (digit :: rest)
        some ({ fields with fraction := digits }, rest)
      else some (fields, chars)
    | _ => some (fields, chars)
  | .zone =>
    match chars with
    | 'Z' :: rest => some ({ fields with zone := .universal }, rest)
    | _ => do
      let (ahead, rest) ← sign? chars
      let (hours, rest) ← number? 2 rest
      let (minutes, rest) ← number? 2 (← char? ':' rest)
      return ({ fields with zone := .shifted ahead hours minutes }, rest)
  | .compactZone => do
    let (ahead, rest) ← sign? chars
    let (hours, rest) ← number? 2 rest
    let (minutes, rest) ← number? 2 rest
    return ({ fields with zone := .shifted ahead hours minutes }, rest)
  | .zoneName =>
    let capitals := (chars.take 5).takeWhile Char.isUpper
    if 3 ≤ capitals.length then some (fields, chars.drop capitals.length) else none

end Element

/-- The recognised layouts. -/
inductive Layout where
  /-- `2024-01-15T10:30:00.25+01:00` -/
  | internet
  /-- `2024-01-15T10:30:00.25`, read as universal time -/
  | isoLocal
  /-- `2024-01-15 10:30:00.25` -/
  | spaceLocal
  /-- `2024/01/15 10:30:00.25` -/
  | slashLocal
  /-- `15/Jan/2024:10:30:00 +0100` -/
  | accessLog
  /-- `Mon Jan 15 10:30:00 2024` -/
  | ctime
  /-- `Mon Jan 15 10:30:00 CET 2024` -/
  | unixDate
  /-- `Mon Jan 15 10:30:00 +0100 2024` -/
  | zonedCtime
  deriving DecidableEq, Repr

namespace Layout

/-- The elements of a layout, in the order in which they are written. -/
def elements : Layout → List Element
  | .internet =>
    [.year, .literal '-', .month, .literal '-', .day, .literal 'T', .clock, .fraction, .zone]
  | .isoLocal => [.year, .literal '-', .month, .literal '-', .day, .literal 'T', .clock, .fraction]
  | .spaceLocal =>
    [.year, .literal '-', .month, .literal '-', .day, .literal ' ', .clock, .fraction]
  | .slashLocal =>
    [.year, .literal '/', .month, .literal '/', .day, .literal ' ', .clock, .fraction]
  | .accessLog =>
    [.day, .literal '/', .monthName, .literal '/', .year, .literal ':', .clock, .literal ' ',
      .compactZone]
  | .ctime =>
    [.weekday, .literal ' ', .monthName, .looseDay, .literal ' ', .clock, .fraction,
      .literal ' ', .year]
  | .unixDate =>
    [.weekday, .literal ' ', .monthName, .looseDay, .literal ' ', .clock, .fraction,
      .literal ' ', .zoneName, .literal ' ', .year]
  | .zonedCtime =>
    [.weekday, .literal ' ', .monthName, .literal ' ', .day, .literal ' ', .clock, .fraction,
      .literal ' ', .compactZone, .literal ' ', .year]

/-- All layouts, in the order in which they are tried. -/
def all : List Layout :=
  [.internet, .isoLocal, .spaceLocal, .slashLocal, .accessLog, .ctime, .unixDate, .zonedCtime]

/-- Read a list of elements at the front of a text. -/
def readElements : List Element → Fields → List Char → Option (Fields × List Char)
  | [], fields, chars => some (fields, chars)
  | element :: later, fields, chars => do
    let (fields, rest) ← element.read fields chars
    readElements later fields rest

/-- Nothing is left but perhaps one line feed. -/
def atEnd : List Char → Bool
  | [] => true
  | ['\n'] => true
  | _ => false

/-- The fields of a text that is written in the layout as a whole. -/
def fields? (layout : Layout) (chars : List Char) : Option Fields := do
  let (fields, rest) ← readElements layout.elements .blank chars
  if atEnd rest then some fields else none

/-- The moment denoted under the first of `layouts` that has the form of the
text and whose fields exist. -/
def firstInstant : List Layout → List Char → Except RangeError (Option Instant)
  | [], _ => .ok none
  | layout :: later, chars =>
    match layout.fields? chars with
    | none => firstInstant later chars
    | some fields => do
      match ← fields.instant with
      | some instant => return some instant
      | none => firstInstant later chars

end Layout
end Timestamp
end ContainerFleet
