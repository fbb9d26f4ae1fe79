import ContainerFleet.Json.Basic
import ContainerFleet.Text.Digits

/-!
# Writing records

The text of flat records: strings and null under fixed keys.  Only what the
grammar forbids inside quotes is escaped, so a record never holds a line
feed.
-/

namespace ContainerFleet
namespace Json

/-- A hexadecimal digit in lower case. -/
def hexDigit (value : Nat) : Char :=
  (Nat.toDigits 16 value).getD 0 '0'

/-- A character inside quotes. -/
def escapeChar (char : Char) : List Char :=
  if char = '"' then ['\\', '"']
  else if char = '\\' then ['\\', '\\']
  else if char = '\n' then ['\\', 'n']
  else if char = '\r' then ['\\', 'r']
  else if char = '\t' then ['\\', 't']
  else if char = '\x08' then ['\\', 'b']
  else if char = '\x0c' then ['\\', 'f']
  else if char.toNat < 0x20 then
    ['\\', 'u', '0', '0', hexDigit (char.toNat / 16), hexDigit (char.toNat % 16)]
  else [char]

/-- A text in quotes. -/
def quoted (text : String) : List Char :=
  '"' :: text.toList.flatMap escapeChar ++ ['"']

/-- A text in quotes, or null. -/
def quotedOrNull : Option String → List Char
  | some content => quoted content
  | none => "null".toList

/-- Written members with a comma and a blank between them. -/
def joinMembers : List (List Char) → List Char
  | [] => []
  | [last] => last
  | first :: later => first ++ ',' :: ' ' :: joinMembers later

/-- An object of texts and nulls. -/
def record (members : List (String × Option String)) : List Char :=
  '{' :: joinMembers (members.map fun (key, value) =>
    quoted key ++ ':' :: ' ' :: quotedOrNull value) ++ ['}']

end Json
end ContainerFleet
