import ContainerFleet.Timestamp.Candidate

/-!
# Timestamps at the front of a line

Most lines begin with an ISO-like form, which is cut out directly.  For all
others every short beginning of the line is tried as a candidate, and the
longest that is a timestamp is taken.
-/

namespace ContainerFleet
namespace Timestamp

/-- How many characters of a line are searched for a timestamp. -/
def searchLength : Nat := 40

/-- Drop an optional character of the given set. -/
def dropOne (drop : Char → Bool) : List Char → List Char
  | char :: rest => if drop char then rest else char :: rest
  | [] => []

def isDateMark (char : Char) : Bool := char = '-' || char = '/'

/-- A character that satisfies `accept`, put behind what was read before it. -/
def oneOf? (accept : Char → Bool) : List Char → Option (Char × List Char)
  | char :: rest => if accept char then some (char, rest) else none
  | [] => none

/-- A point or comma and digits, where there are any. -/
def fractionRun : List Char → List Char × List Char
  | mark :: digit :: rest =>
    if (mark = '.' || mark = ',') && digit.isDigit then
      let (digits, rest) := Digits.split (digit :: rest)
      (mark :: digits, rest)
    else ([], mark :: digit :: rest)
  | chars => ([], chars)

/-- A zone in any of its ISO spellings, where there is one. -/
def zoneRun (chars : List Char) : List Char × List Char :=
  match chars with
  | 'Z' :: rest => (['Z'], rest)
  | sign :: rest =>
    if sign = '+' || sign = '-' then
      match Digits.take? 2 rest with
      | some (hours, ':' :: afterColon) =>
        match Digits.take? 2 afterColon with
        | some (minutes, rest) => (sign :: hours ++ ':' :: minutes, rest)
        | none => ([], chars)
      | some (hours, afterHours) =>
        match Digits.take? 2 afterHours with
        | some (minutes, rest) => (sign :: hours ++ minutes, rest)
        | none => ([], chars)
      | none => ([], chars)
    else ([], chars)
  | [] => ([], [])

/-- The ISO-like form at the front of a line, without an opening bracket
before it, and what follows it, without a closing bracket. -/
def isoFront? (line : List Char) : Option (List Char × List Char) := do
  let chars := dropOne openBrackets.contains line
  let (year, rest) ← Digits.take? 4 chars
  let (mark₁, rest) ← oneOf? isDateMark rest
  let (month, rest) ← Digits.take? 2 rest
  let (mark₂, rest) ← oneOf? isDateMark rest
  let (day, rest) ← Digits.take? 2 rest
  let (mark₃, rest) ← oneOf? (fun char => char = 'T' || char = ' ') rest
  let (hour, rest) ← Digits.take? 2 rest
  let (minute, rest) ← Digits.take? 2 (← Element.char? ':' rest)
  let (second, rest) ← Digits.take? 2 (← Element.char? ':' rest)
  let (fraction, rest) := fractionRun rest
  let (zone, rest) := zoneRun rest
  let front := year ++ mark₁ :: month ++ mark₂ :: day ++ mark₃ :: hour ++ ':' :: minute ++
    ':' :: second ++ fraction ++ zone
  return (front, dropOne closeBrackets.contains rest)

/-- The text of a line after its timestamp. -/
def remainder (chars : List Char) : List Char :=
  (Text.trim chars).dropWhile (closeBrackets ++ [' ', '\t']).contains

/-- The longest beginning of the line, of at most `searchLength` characters,
that is a timestamp, as the moment and the text after it. -/
def longestPrefix (line : List Char) : Except RangeError (Option (Instant × List Char)) :=
  (List.range (min line.length searchLength)).foldlM (fun found index => do
    match ← ofCandidate (line.take (index + 1)) with
    | some instant => return some (instant, remainder (line.drop (index + 1)))
    | none => return found) none

/-- The moment at the front of a line and the text after it; the whole line,
without blanks at its ends, where there is none. -/
def extract (line : List Char) : Except RangeError (Option Instant × List Char) := do
  let line := Text.trim line
  if line.isEmpty then return (none, [])
  let front ← match isoFront? line with
    | some (front, rest) =>
      pure ((← ofCandidate front).map fun instant => (instant, remainder rest))
    | none => pure none
  match front with
  | some (instant, rest) => return (some instant, rest)
  | none =>
    match ← longestPrefix line with
    | some (instant, rest) => return (some instant, rest)
    | none => return (none, line)

end Timestamp
end ContainerFleet
