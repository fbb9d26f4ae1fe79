import ContainerFleet.Number.Binary64
import Mathlib

/-!
# Quotients too large for a binary fraction

A quotient of whole numbers has a nearest finite fraction unless it reaches the middle
between the largest one and the power of two above it.  The unit in which a quotient is
rounded puts its leading bit in the fifty-third place; the last exponent for which this
fits is decided by the rounding, and all other exponents by the size of the quotient.
-/

namespace ContainerFleet

/-- Rounding stays below an even number just if the quotient is more than a half below
it: at the half, the even neighbour is taken. -/
theorem roundQuotient_lt_iff {num den whole : Nat} (positive : 0 < den)
    (even : whole % 2 = 0) :
    roundQuotient num den < whole ↔ 2 * num + den < 2 * (whole * den) := by
  have remainder := Nat.mod_lt num positive
  have parts := Nat.div_add_mod num den
  have low : whole ≤ num / den → whole * den ≤ den * (num / den) := fun reaches => by
    rw [Nat.mul_comm den]
    exact Nat.mul_le_mul_right den reaches
  have middle : whole = num / den + 1 → whole * den = den * (num / den) + den := fun next => by
    rw [next, Nat.add_mul, Nat.one_mul, Nat.mul_comm den]
  have high : num / den + 2 ≤ whole → den * (num / den) + 2 * den ≤ whole * den := fun below => by
    have grown := Nat.mul_le_mul_right den below
    rw [Nat.add_mul, Nat.mul_comm (num / den)] at grown
    exact grown
  rw [roundQuotient]
  generalize num / den = quotient at *
  generalize num % den = rest at *
  generalize den * quotient = below at *
  generalize whole * den = product at *
  -- Only the whole number next above the quotient can be decided by the half.
  rcases Nat.lt_trichotomy whole (quotient + 1) with least | next | beyond
  · have reached := low (by omega)
    split_ifs <;> omega
  · have reached := middle next
    split_ifs <;> omega
  · have reached := high (by omega)
    split_ifs <;> omega

namespace Binary64

/-! ## The unit of a quotient -/

/-- A quotient beside a multiple of a power of two, in whole numbers. -/
theorem scaled_lt_iff {den : Nat} (positive : 0 < den) (num times : Nat) (exponent : Int) :
    num * 2 ^ (-exponent).toNat < times * (den * 2 ^ exponent.toNat) ↔
      (num : ℚ) / den < times * (2 : ℚ) ^ exponent := by
  have power : (2 : ℚ) ^ exponent = 2 ^ exponent.toNat / 2 ^ (-exponent).toNat := by
    rw [← zpow_natCast, ← zpow_natCast, ← zpow_sub₀ two_ne_zero]
    congr 1
    omega
  have denominator : (0 : ℚ) < den := by exact_mod_cast positive
  have divisor : (0 : ℚ) < 2 ^ (-exponent).toNat := by positivity
  rw [power, mul_div_assoc', div_lt_div_iff₀ denominator divisor, ← Nat.cast_lt (α := ℚ)]
  push_cast
  rw [mul_assoc (times : ℚ), mul_comm ((2 : ℚ) ^ exponent.toNat)]

theorem between_powers {number : Nat} (positive : 0 < number) :
    (2 : ℚ) ^ (number.log2 : Int) ≤ number ∧ (number : ℚ) < 2 ^ ((number.log2 : Int) + 1) := by
  constructor
  · rw [zpow_natCast]
    exact_mod_cast Nat.log2_self_le positive.ne'
  · exact_mod_cast (Nat.lt_log2_self (n := number))

/-- A positive quotient lies between two neighbouring powers of two, and its unit is
that of the lower one, but for the least unit there is. -/
theorem exists_leading {num den : Nat} (positive : 0 < num) (divisor : 0 < den) :
    ∃ leading : Int, unitExponent num den = max (leading - 52) (-1074) ∧
      (2 : ℚ) ^ leading ≤ num / den ∧ (num : ℚ) / den < 2 ^ (leading + 1) := by
  have denominator : (0 : ℚ) < den := by exact_mod_cast divisor
  rcases between_powers positive with ⟨least, most⟩
  rcases between_powers divisor with ⟨leastDivisor, mostDivisor⟩
  have above : (num : ℚ) / den < 2 ^ ((num.log2 : Int) - den.log2 + 1) := by
    rw [div_lt_iff₀ denominator]
    calc (num : ℚ) < 2 ^ ((num.log2 : Int) + 1) := most
      _ = 2 ^ ((num.log2 : Int) - den.log2 + 1) * 2 ^ (den.log2 : Int) := by
        rw [← zpow_add₀ two_ne_zero]
        congr 1
        omega
      _ ≤ 2 ^ ((num.log2 : Int) - den.log2 + 1) * den := by gcongr
  have below : (2 : ℚ) ^ ((num.log2 : Int) - den.log2 - 1) ≤ num / den := by
    rw [le_div_iff₀ denominator]
    calc (2 : ℚ) ^ ((num.log2 : Int) - den.log2 - 1) * den
        ≤ 2 ^ ((num.log2 : Int) - den.log2 - 1) * 2 ^ ((den.log2 : Int) + 1) := by gcongr
      _ = 2 ^ (num.log2 : Int) := by
        rw [← zpow_add₀ two_ne_zero]
        congr 1
        omega
      _ ≤ num := least
  have compared := scaled_lt_iff divisor num 1 ((num.log2 : Int) - den.log2)
  rw [Nat.one_mul, Nat.cast_one, one_mul] at compared
  simp only [unitExponent, Nat.shiftLeft_eq]
  by_cases smaller : num * 2 ^ (-((num.log2 : Int) - den.log2)).toNat <
      den * 2 ^ ((num.log2 : Int) - den.log2).toNat
  · refine ⟨(num.log2 : Int) - den.log2 - 1, ?_, below, ?_⟩
    · simp only [if_pos smaller]
    · rw [sub_add_cancel]
      exact compared.mp smaller
  · refine ⟨(num.log2 : Int) - den.log2, ?_, ?_, above⟩
    · simp only [if_neg smaller]
    · exact not_lt.mp fun below => smaller (compared.mpr below)

/-- In its unit a quotient has at most fifty-three places, and no fewer unless the unit
is the least. -/
theorem places_of_unit {num den : Nat} (positive : 0 < num) (divisor : 0 < den) :
    num * 2 ^ (-unitExponent num den).toNat < 2 ^ 53 * (den * 2 ^ (unitExponent num den).toNat) ∧
      (-1074 < unitExponent num den →
        2 ^ 52 * (den * 2 ^ (unitExponent num den).toNat) ≤
          num * 2 ^ (-unitExponent num den).toNat) := by
  rcases exists_leading positive divisor with ⟨leading, unit, below, above⟩
  constructor
  · rw [scaled_lt_iff divisor, Nat.cast_pow, Nat.cast_ofNat, ← zpow_natCast,
      ← zpow_add₀ two_ne_zero]
    refine above.trans_le (zpow_le_zpow_right₀ one_le_two ?_)
    omega
  · intro normal
    rw [← not_lt, scaled_lt_iff divisor, not_lt, Nat.cast_pow, Nat.cast_ofNat, ← zpow_natCast,
      ← zpow_add₀ two_ne_zero]
    refine (zpow_le_zpow_right₀ one_le_two ?_).trans below
    omega

/-! ## Overflow -/

/-- A quotient that reaches the middle between the largest finite fraction and the power
of two above it, in units of which the largest one has fifty-three places. -/
def TooLarge (num den : Nat) : Prop := (2 ^ 54 - 1) * (den * 2 ^ 970) ≤ num

instance (num den : Nat) : Decidable (TooLarge num den) :=
  inferInstanceAs (Decidable (_ ≤ _))

theorem unit_mono (den : Nat) {low high : Nat} (ordered : low ≤ high) :
    den * 2 ^ low ≤ den * 2 ^ high :=
  Nat.mul_le_mul_left den (Nat.pow_le_pow_right two_pos ordered)

theorem unit_add (den exponent more : Nat) :
    den * 2 ^ (exponent + more) = 2 ^ more * (den * 2 ^ exponent) := by
  rw [Nat.pow_add, ← Nat.mul_assoc, Nat.mul_comm]

/-- The pattern of a quotient is that of a finite fraction unless the quotient is too
large for one. -/
theorem quotientBits_lt_iff {num den : Nat} (positive : 0 < num) (divisor : 0 < den) :
    quotientBits num den < infinityBits ↔ ¬ TooLarge num den := by
  rcases places_of_unit positive divisor with ⟨most, least⟩
  have bound := @roundQuotient_lt_iff (num * 2 ^ (-unitExponent num den).toNat)
    (den * 2 ^ (unitExponent num den).toNat)
  simp only [TooLarge, quotientBits, infinityBits, Nat.shiftLeft_eq]
  generalize unitExponent num den = exponent at *
  have unit : 0 < den * 2 ^ exponent.toNat := Nat.mul_pos divisor (Nat.two_pow_pos _)
  have whole (large : 0 ≤ exponent) : num * 2 ^ (-exponent).toNat = num := by
    rw [Int.toNat_of_nonpos (by omega), Nat.pow_zero, Nat.mul_one]
  -- The units of the largest finite fraction have the exponent 971.  There a carry into the
  -- fifty-fourth place is too much; below it there is room for one, above it no pattern fits.
  rcases Int.lt_trichotomy exponent 971 with small | last | large
  · have grows := @unit_mono den exponent.toNat 970 (by omega)
    have scaled : num ≤ num * 2 ^ (-exponent).toNat :=
      Nat.le_mul_of_pos_right num (Nat.two_pow_pos _)
    have rounded := (@bound (2 ^ 53 + 2) unit (by decide)).mpr (by omega)
    refine iff_of_true ?_ ?_ <;> omega
  · have doubled := unit_add den 970 1
    have place : 970 + 1 = exponent.toNat := by omega
    have rounded := @bound (2 ^ 53) unit (by decide)
    rw [place] at doubled
    rw [doubled, whole (by omega)] at *
    generalize den * 2 ^ 970 = half at *
    generalize roundQuotient num (2 ^ 1 * half) = units at *
    omega
  · have grows := @unit_mono den 972 exponent.toNat (by omega)
    have quadrupled := unit_add den 970 2
    have reached := least (by omega)
    have unscaled := whole (by omega)
    have rounded := mt (@bound (2 ^ 52) unit (by decide)).mp (by omega)
    refine iff_of_false ?_ ?_ <;> omega

/-- A quotient has a nearest finite fraction unless it is too large. -/
theorem ofQuotient?_eq_none_iff (negative : Bool) {num den : Nat} (divisor : 0 < den) :
    ofQuotient? negative num den = none ↔ TooLarge num den := by
  rcases Nat.eq_zero_or_pos num with rfl | positive
  · have small : ¬ TooLarge 0 den := by
      have unit := Nat.mul_pos divisor (Nat.two_pow_pos 970)
      rw [TooLarge]
      omega
    refine iff_of_false ?_ small
    rw [ofQuotient?, if_pos rfl, if_pos (by decide)]
    exact Option.some_ne_none _
  · rw [← not_iff_not, ← quotientBits_lt_iff positive divisor, ofQuotient?,
      if_neg positive.ne']
    split
    · rename_i below
      exact iff_of_true (Option.some_ne_none _) below
    · rename_i beyond
      exact iff_of_false (fun some => some rfl) beyond

theorem divide_cases (num : Int) {den : Nat} (divisor : 0 < den) :
    (TooLarge num.natAbs den ∧ divide num den = .error .quotient) ∨
      (¬ TooLarge num.natAbs den ∧ ∃ value, divide num den = .ok value) := by
  rw [← ofQuotient?_eq_none_iff (num < 0) divisor, divide]
  cases ofQuotient? (num < 0) num.natAbs den with
  | none => exact .inl ⟨rfl, rfl⟩
  | some value => exact .inr ⟨Option.some_ne_none _, value, rfl⟩

theorem ofInt_cases (number : Int) :
    (TooLarge number.natAbs 1 ∧ ofInt number = .error .whole) ∨
      (¬ TooLarge number.natAbs 1 ∧ ∃ value, ofInt number = .ok value) := by
  rw [← ofQuotient?_eq_none_iff (number < 0) Nat.one_pos, ofInt]
  cases ofQuotient? (number < 0) number.natAbs 1 with
  | none => exact .inl ⟨rfl, rfl⟩
  | some value => exact .inr ⟨Option.some_ne_none _, value, rfl⟩

end Binary64
end ContainerFleet
