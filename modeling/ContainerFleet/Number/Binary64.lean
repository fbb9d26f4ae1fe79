import ContainerFleet.RangeError

/-!
# Binary fractions of 64 bits

Exact passage between whole numbers and binary fractions.  A quotient of
whole numbers of any size is rounded once, to the nearest binary fraction,
and a half goes to the even neighbour.  The other way, a finite fraction is
a whole number times a power of two, from which its whole part is read off
without error.
-/

namespace ContainerFleet

/-- The whole number nearest to `num / den`; a half goes to the even neighbour. -/
def roundQuotient (num den : Nat) : Nat :=
  let low := num / den
  let twice := 2 * (num % den)
  if twice < den then low
  else if den < twice then low + 1
  else if low % 2 = 0 then low else low + 1

namespace Binary64

/-- The bits of the largest finite fraction are all below this pattern. -/
def infinityBits : Nat := 2047 <<< 52

/-- The exponent of the unit in which a positive quotient is rounded: its
leading bit is the fifty-third, except below the smallest normal fraction. -/
def unitExponent (num den : Nat) : Int :=
  let guess : Int := (num.log2 : Int) - den.log2
  let leading := if num <<< (-guess).toNat < den <<< guess.toNat then guess - 1 else guess
  max (leading - 52) (-1074)

/-- The bit pattern nearest to a positive quotient.  The pattern counts the
units of a fraction from zero on, so a carry out of the significand moves on
to the next exponent by itself. -/
def quotientBits (num den : Nat) : Nat :=
  let exponent := unitExponent num den
  ((exponent + 1074).toNat <<< 52) +
    roundQuotient (num <<< (-exponent).toNat) (den <<< exponent.toNat)

/-- The fraction nearest to `num / den`, with the sign given, if it is finite. -/
def ofQuotient? (negative : Bool) (num den : Nat) : Option Float :=
  let bits := if num = 0 then 0 else quotientBits num den
  if bits < infinityBits then
    some (Float.ofBits (UInt64.ofNat (if negative then bits + (1 <<< 63) else bits)))
  else none

/-- The quotient of two whole numbers, the second of them positive. -/
def divide (num : Int) (den : Nat) : Except RangeError Float :=
  match ofQuotient? (num < 0) num.natAbs den with
  | some value => .ok value
  | none => .error .quotient

/-- The fraction nearest to a whole number. -/
def ofInt (number : Int) : Except RangeError Float :=
  match ofQuotient? (number < 0) number.natAbs 1 with
  | some value => .ok value
  | none => .error .whole

/-- A finite fraction as a sign, a whole number and an exponent of two. -/
structure Parts where
  negative : Bool
  significand : Nat
  exponent : Int
  deriving DecidableEq, Repr

/-- The parts of a fraction, none where it is infinite or not a number. -/
def parts? (value : Float) : Option Parts :=
  let bits : Nat := value.toBits.toNat
  let negative : Bool := 1 <<< 63 ≤ bits
  let field : Nat := (bits >>> 52) % 2048
  let low : Nat := bits % (1 <<< 52)
  if field = 2047 then none
  else if field = 0 then some ⟨negative, low, -1074⟩
  else some ⟨negative, (1 <<< 52) + low, (field : Int) - 1075⟩

namespace Parts

/-- The size of the fraction as a quotient of whole numbers. -/
def quotient (parts : Parts) : Nat × Nat :=
  (parts.significand <<< parts.exponent.toNat, 1 <<< (-parts.exponent).toNat)

/-- Nothing stands behind the point. -/
def isWhole (parts : Parts) : Bool :=
  parts.quotient.1 % parts.quotient.2 == 0

/-- The whole part, rounded toward zero. -/
def truncated (parts : Parts) : Int :=
  let size : Nat := parts.quotient.1 / parts.quotient.2
  if parts.negative then -(size : Int) else size

end Parts

/-- The whole part of a fraction, toward zero; none where it has none. -/
def truncate? (value : Float) : Option Int :=
  (parts? value).map Parts.truncated

/-- Positive infinity. -/
def infinity : Float := Float.ofBits (UInt64.ofNat infinityBits)

/-- A value that is not a number. -/
def notANumber : Float := Float.ofBits (UInt64.ofNat (infinityBits + (1 <<< 51)))

/-- The fraction with the other sign; also for zero and infinity. -/
def negate (value : Float) : Float :=
  Float.ofBits (value.toBits ^^^ 0x8000000000000000)

/-- The fraction nearest to `digits` times a power of ten, infinite where it
is too large.  Exponents far outside the range are decided by the count of
digits alone, so no power of that size is computed. -/
def ofDecimal (negative : Bool) (digits : Nat) (exponent : Int) : Float :=
  let places : Int := (Nat.toDigits 10 digits).length
  let size :=
    if digits = 0 ∨ places + exponent < -400 then some (if negative then -0.0 else 0.0)
    else if 400 < places + exponent then none
    else ofQuotient? negative (digits * Nat.pow 10 exponent.toNat)
      (Nat.pow 10 (-exponent).toNat)
  match size with
  | some value => value
  | none => if negative then negate infinity else infinity

end Binary64
end ContainerFleet
