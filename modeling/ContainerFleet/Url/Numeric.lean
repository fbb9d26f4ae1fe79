import ContainerFleet.Text.Digits
import ContainerFleet.Text.Split

/-!
# Numeric hosts

Hosts that are given by numbers instead of a name: four decimal numbers with
dots between them, or groups of hexadecimal digits with colons between them,
of which one run of zeros may be left out.
-/

namespace ContainerFleet
namespace Url

/-- Where reading of a dotted host can be after a further character.  Even
states wait for the first digit of a number, odd ones are inside of a number;
any one character may stand between two numbers. -/
def dottedStates (state : Nat) (char : Char) : List Nat :=
  (if char.isDigit then [if state % 2 = 0 then state + 1 else state] else []) ++
    (if state % 2 = 1 ∧ state < 7 then [state + 1] else [])

/-- Whether a host looks like four numbers with something between them. -/
def looksDotted (host : List Char) : Bool :=
  (host.foldl (fun states char => (states.flatMap (dottedStates · char)).eraseDups) [0]).contains 7

/-- A decimal number up to 255 without needless zeros. -/
def isDottedNumber (digits : List Char) : Bool :=
  !digits.isEmpty && digits.length ≤ 3 && digits.all Char.isDigit &&
    (digits.length = 1 || digits.head? ≠ some '0') && Digits.value digits ≤ 255

/-- Four decimal numbers with dots between them. -/
def isDotted (host : List Char) : Bool :=
  let numbers := Text.splitAt '.' host
  numbers.length = 4 && numbers.all isDottedNumber

/-- One to four hexadecimal digits. -/
def isGroup (digits : List Char) : Bool :=
  !digits.isEmpty && digits.length ≤ 4 && digits.all fun char =>
    char.isDigit || ('a' ≤ char.toLower && char.toLower ≤ 'f')

/-- The groups of an address.  The last may be written as four decimal numbers
and then stands for two. -/
def groups? (address : List Char) : Option (List (List Char)) :=
  let groups := Text.splitAt ':' address
  let last := groups.getLast?.getD []
  if groups.length < 3 then none
  else if last.contains '.' then
    if isDotted last then some (groups.dropLast ++ [['0'], ['0']]) else none
  else some groups

/-- The groups on one side of the place where zeros are left out; the side
may be empty. -/
def isSide (groups : List (List Char)) : Bool :=
  groups = [[]] || groups.all isGroup

/-- Groups with colons between them; two colons stand for the zeros that are
left out. -/
def isGrouped (address : List Char) : Bool :=
  match groups? address with
  | none => false
  | some groups =>
    match (List.range (groups.length - 1)).filter fun place =>
        place ≠ 0 && groups[place]? = some [] with
    | [] => groups.length = 8 && groups.all isGroup
    | [place] =>
      let before := groups.take place
      let after := groups.drop (place + 1)
      isSide before && isSide after &&
        ((before ++ after).filter fun group => !group.isEmpty).length < 8 && groups.length ≤ 9
    | _ => false

/-- An address in groups, with the name of a zone behind a percent sign or
without. -/
def isZoned (address : List Char) : Bool :=
  match Text.cutAt? '%' address with
  | none => isGrouped address
  | some (address, zone) => !zone.isEmpty && !zone.contains '%' && isGrouped address

example : isZoned "::1".toList ∧ isZoned "fe80::1%eth0".toList ∧ ¬ isZoned "1::2::3".toList := by
  decide +kernel

end Url
end ContainerFleet
