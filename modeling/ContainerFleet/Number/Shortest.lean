import ContainerFleet.Number.Decimal

/-!
# Shortest decimals

The decimal of the fewest digits that reads back as a given binary fraction,
and of several the nearest to it.  It is looked for among the neighbours of
the exact value, with one digit, with two, and so on; seventeen digits always
suffice.
-/

namespace ContainerFleet
namespace Decimal

/-- A number of digits and the power of ten that they count. -/
structure Scaled where
  digits : Nat
  exponent : Int
  deriving DecidableEq, Repr

/-- The numbers of `count` digits next to a positive quotient, the nearer one
first; halfway between them, the one with the even last digit. -/
def neighbours (count num den : Nat) : List Scaled :=
  let shift := (count : Int) - 1 - leadingExponent num den
  let scaledNum := num * Nat.pow 10 shift.toNat
  let scaledDen := den * Nat.pow 10 (-shift).toNat
  let low := scaledNum / scaledDen
  let nearest := roundQuotient scaledNum scaledDen
  [⟨nearest, -shift⟩, ⟨if nearest = low then low + 1 else low, -shift⟩]

/-- The first neighbour that reads back as the value, of `count` digits or
more; `tries` says up to how many. -/
def shortestFrom (value : Float) (num den : Nat) : (tries count : Nat) → Scaled
  | 0, count => (neighbours count num den).headD ⟨0, 0⟩
  | tries + 1, count =>
    match (neighbours count num den).find? fun found =>
        (Binary64.ofDecimal false found.digits found.exponent).toBits == value.toBits with
    | some found => found
    | none => shortestFrom value num den tries (count + 1)

/-- Digits laid out around the point, where the first of them stands for ten
to the `exponent`: from sixteen places before the point and from four zeros
behind it on, with an exponent of at least two digits. -/
def laidOut (digits : List Char) (exponent : Int) : List Char :=
  if exponent < -4 ∨ 16 ≤ exponent then
    digits.take 1 ++ fractionText (digits.drop 1) ++
      'e' :: (if exponent < 0 then '-' else '+') :: Digits.padded 2 exponent.natAbs
  else if exponent < 0 then
    '0' :: '.' :: (List.replicate (exponent.natAbs - 1) '0' ++ digits)
  else
    let before := exponent.toNat + 1
    let after := digits.drop before
    digits.take before ++ List.replicate (before - digits.length) '0' ++
      '.' :: (if after.isEmpty then ['0'] else after)

/-- The shortest decimal of a fraction. -/
def shortest (value : Float) : List Char :=
  match Binary64.parts? value with
  | none => withoutParts value
  | some parts =>
    let (num, den) := parts.quotient
    signed parts.negative <|
      if num = 0 then laidOut ['0'] 0
      else
        let found := shortestFrom (if parts.negative then Binary64.negate value else value)
          num den 16 1
        let digits := Digits.ofNat found.digits
        laidOut (withoutTrailingZeros digits) (found.exponent + (digits.length : Int) - 1)

end Decimal
end ContainerFleet
