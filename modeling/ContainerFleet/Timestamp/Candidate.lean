import ContainerFleet.Text.Blank
import ContainerFleet.Timestamp.Layout

/-!
# Timestamp candidates

A piece of text that may be a complete timestamp: decoration around it is
removed, a comma before the fraction is read as a point, and the zone of an
ISO form may lack its colon.
-/

namespace ContainerFleet
namespace Timestamp

def openBrackets : List Char := ['[', '(', '{', '<']

def closeBrackets : List Char := [']', ')', '}', '>']

/-- The brackets that may enclose a timestamp. -/
def isBracket (char : Char) : Bool :=
  openBrackets.contains char || closeBrackets.contains char

/-- Replace the first comma by a point where only digits follow it. -/
def pointFraction (chars : List Char) : List Char :=
  match chars.dropWhile (· ≠ ',') with
  | _ :: tail =>
    if !tail.isEmpty && tail.all Char.isDigit then chars.takeWhile (· ≠ ',') ++ '.' :: tail
    else chars
  | [] => chars

/-- Insert the colon into a compact zone at the end of the text; a line feed
after the zone is dropped. -/
def colonZone? (chars : List Char) : Option (List Char) :=
  let backwards := match chars.reverse with
    | '\n' :: rest => rest
    | rest => rest
  match backwards with
  | d4 :: d3 :: d2 :: d1 :: sign :: front =>
    if (sign = '+' || sign = '-') && [d1, d2, d3, d4].all Char.isDigit then
      some (front.reverse ++ [sign, d1, d2, ':', d3, d4])
    else none
  | _ => none

/-- A candidate without the decoration around it. -/
def undecorated (chars : List Char) : List Char :=
  Text.stripBoth isBracket (Text.trim chars)

/-- The moment that a candidate denotes, if it is a timestamp as a whole. -/
def ofCandidate (candidate : List Char) : Except RangeError (Option Instant) :=
  let bare := undecorated candidate
  if bare.isEmpty then .ok none
  else do
    let text := pointFraction bare
    match ← Layout.firstInstant Layout.all text with
    | some instant => return some instant
    | none =>
      match colonZone? text with
      | some withColon => Layout.firstInstant [.internet] withColon
      | none => return none

end Timestamp
end ContainerFleet
