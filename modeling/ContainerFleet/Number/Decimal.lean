import ContainerFleet.Number.Binary64
import ContainerFleet.Text.Digits

/-!
# Decimal text of binary fractions

Two written forms: a fixed count of places, and a count of significant digits
without trailing zeros.  Both round the exact value once, a half going to the
even neighbour.
-/

namespace ContainerFleet
namespace Decimal

/-- A number without its sign, written with a sign where `negative` says so. -/
def signed (negative : Bool) (size : List Char) : List Char :=
  if negative then '-' :: size else size

/-- The text of a fraction that has no parts. -/
def withoutParts (value : Float) : List Char :=
  if value.isNaN then "nan".toList else signed (value < 0) "inf".toList

/-- A whole number of units of ten to the minus `places`, with its point. -/
def pointed (places units : Nat) : List Char :=
  let whole := Digits.ofNat (units / Nat.pow 10 places)
  if places = 0 then whole
  else whole ++ '.' :: Digits.padded places (units % Nat.pow 10 places)

/-- A fraction with a fixed count of places. -/
def fixed (places : Nat) (value : Float) : List Char :=
  match Binary64.parts? value with
  | none => withoutParts value
  | some parts =>
    let (num, den) := parts.quotient
    signed parts.negative (pointed places (roundQuotient (num * Nat.pow 10 places) den))

/-- A text moved to the right end of a field of at least `width` characters. -/
def rightAligned (width : Nat) (chars : List Char) : List Char :=
  List.replicate (width - chars.length) ' ' ++ chars

/-- The largest exponent of ten whose power does not exceed a positive quotient. -/
def leadingExponent (num den : Nat) : Int :=
  if den ≤ num then ((Digits.ofNat (num / den)).length : Int) - 1
  else -((Digits.ofNat ((den + num - 1) / num - 1)).length : Int)

/-- The quotient in `count` significant digits, as those digits and the
exponent of the first of them. -/
def significant (count num den : Nat) : Nat × Int :=
  let exponent := leadingExponent num den
  let shift := (count : Int) - 1 - exponent
  let digits := roundQuotient (num * Nat.pow 10 shift.toNat) (den * Nat.pow 10 (-shift).toNat)
  if digits = Nat.pow 10 count then (digits / 10, exponent + 1) else (digits, exponent)

/-- Digits without the zeros at their end. -/
def withoutTrailingZeros (digits : List Char) : List Char :=
  (digits.reverse.dropWhile (· = '0')).reverse

/-- A point and the digits after it, nothing where there are none. -/
def fractionText (digits : List Char) : List Char :=
  if digits.isEmpty then [] else '.' :: digits

/-- Six significant digits without trailing zeros.  Numbers below 0.0001 and
from a million on are written with an exponent of at least two digits. -/
def general (value : Float) : List Char :=
  match Binary64.parts? value with
  | none => withoutParts value
  | some parts =>
    let (num, den) := parts.quotient
    if num = 0 then signed parts.negative ['0']
    else
      let (units, exponent) := significant 6 num den
      let digits := Digits.ofNat units
      signed parts.negative <|
        if exponent < -4 ∨ 6 ≤ exponent then
          digits.take 1 ++ fractionText (withoutTrailingZeros (digits.drop 1)) ++
            'e' :: (if exponent < 0 then '-' else '+') :: Digits.padded 2 exponent.natAbs
        else if exponent < 0 then
          '0' :: fractionText
            (withoutTrailingZeros (List.replicate (exponent.natAbs - 1) '0' ++ digits))
        else
          digits.take (exponent.toNat + 1) ++
            fractionText (withoutTrailingZeros (digits.drop (exponent.toNat + 1)))

end Decimal
end ContainerFleet
