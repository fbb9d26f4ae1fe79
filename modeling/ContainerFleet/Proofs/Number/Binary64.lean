import ContainerFleet.Number.Binary64
import Mathlib

/-!
# Numbers among the binary fractions

A binary fraction of 64 bits may be no number at all, and is then neither above
nor below anything.  What is computed here from whole numbers is always a
number, if perhaps an infinite one, and of two numbers one that is not below or
equal to the other is above it.
-/

namespace ContainerFleet
namespace Binary64

open Float.Model

/-- A fraction that can be compared with others. -/
def IsNumber (value : Float) : Prop := value.isNaN = false

instance (value : Float) : Decidable (IsNumber value) :=
  inferInstanceAs (Decidable (_ = _))

/-! ## Comparison -/

theorem le_iff (low high : Float) :
    low ≤ high ↔ (low.toModel.unpack.compare high.toModel.unpack).any (·.isLE) = true := by
  change decide (low.toModel ≤ high.toModel) = true ↔ _
  rw [decide_eq_true_iff]
  rfl

theorem lt_iff (low high : Float) :
    low < high ↔ low.toModel.unpack.compare high.toModel.unpack = some .lt := by
  change decide (low.toModel < high.toModel) = true ↔ _
  rw [decide_eq_true_iff, ← beq_iff_eq]
  rfl

/-- Two numbers have an order, which turns around with them. -/
theorem compare_of_numbers {first second : UnpackedFloat} (number : first.isNaN = false)
    (other : second.isNaN = false) :
    ∃ order, first.compare second = some order ∧ second.compare first = some order.swap := by
  cases first with
  | notANumber => cases number
  | infinity sign =>
    cases second with
    | notANumber => cases other
    | infinity otherSign => cases sign <;> cases otherSign <;> exact ⟨_, rfl, rfl⟩
    | zero => cases sign <;> exact ⟨_, rfl, rfl⟩
    | finite otherSign => cases sign <;> cases otherSign <;> exact ⟨_, rfl, rfl⟩
  | zero =>
    cases second with
    | notANumber => cases other
    | infinity otherSign => cases otherSign <;> exact ⟨_, rfl, rfl⟩
    | zero => exact ⟨_, rfl, rfl⟩
    | finite otherSign => cases otherSign <;> exact ⟨_, rfl, rfl⟩
  | finite sign mantissa exponent =>
    cases second with
    | notANumber => cases other
    | infinity otherSign => cases sign <;> cases otherSign <;> exact ⟨_, rfl, rfl⟩
    | zero => cases sign <;> exact ⟨_, rfl, rfl⟩
    | finite otherSign otherMantissa otherExponent =>
      have turned : (compare otherExponent exponent).then (compare otherMantissa mantissa) =
          ((compare exponent otherExponent).then (compare mantissa otherMantissa)).swap := by
        rw [Ordering.swap_then, Int.compare_swap, Nat.compare_swap]
      cases sign <;> cases otherSign
      · exact ⟨_, rfl, congrArg some (congrArg Ordering.swap turned)⟩
      · exact ⟨_, rfl, rfl⟩
      · exact ⟨_, rfl, rfl⟩
      · exact ⟨_, rfl, congrArg some turned⟩

theorem not_le_iff_lt {value bound : Float} (number : IsNumber value) (other : IsNumber bound) :
    ¬ value ≤ bound ↔ bound < value := by
  rcases compare_of_numbers number other with ⟨order, forward, backward⟩
  rw [le_iff, lt_iff, forward, backward]
  cases order <;> decide

/-- What is on either side of an order is a number. -/
theorem isNumber_of_le {low high : Float} (ordered : low ≤ high) :
    IsNumber low ∧ IsNumber high := by
  rw [le_iff] at ordered
  change low.toModel.unpack.isNaN = false ∧ high.toModel.unpack.isNaN = false
  generalize low.toModel.unpack = first at ordered
  generalize high.toModel.unpack = second at ordered
  cases first <;> cases second <;> first | exact ⟨rfl, rfl⟩ | cases ordered

/-! ## Packing -/

/-- The bits of an exponent that no finite fraction has. -/
theorem isFinite_unpack (bits : BitVec 64) :
    (UnpackedFloat.unpack Format.binary64 bits).isFinite = true ↔
      @UnpackedFloat.unpackExponent Format.binary64 bits ≠ -1#_ := by
  rw [UnpackedFloat.unpack]
  dsimp only
  split
  · rename_i full
    split <;> exact iff_of_false Bool.false_ne_true fun partly => partly full
  · rename_i partly
    refine ⟨fun _ => partly, fun _ => ?_⟩
    split
    · split <;> rfl
    · rfl

/-- A finite fraction is a number, also while it is unpacked. -/
theorem isNaN_of_isFinite {value : UnpackedFloat} (finite : value.isFinite = true) :
    value.isNaN = false := by
  cases value with
  | notANumber => cases finite
  | infinity sign => cases finite
  | zero sign => rfl
  | finite sign mantissa exponent => rfl

theorem isNumber_of_isFinite {value : Float} (finite : value.isFinite = true) :
    IsNumber value :=
  isNaN_of_isFinite finite

theorem exponent_of_fits {exponent : Nat} (fits : ¬ 2 ^ 11 ≤ exponent + 1) :
    BitVec.ofNat 11 exponent ≠ -1#11 := by
  intro same
  have numbers := congrArg BitVec.toNat same
  rw [BitVec.toNat_ofNat] at numbers
  change exponent % 2 ^ 11 = 2047 at numbers
  omega

/-- A packed fraction that is not too large is finite. -/
theorem isFinite_unpack_pack {sign : UnpackedFloat.Sign} {mantissa : Nat} {exponent : Int}
    {positive : 0 < mantissa} (fits : ¬ 2 ^ 11 ≤ (exponent + 1023 + 52).toNat + 1) :
    (pack (.finite sign mantissa exponent positive)).unpack.isFinite = true := by
  change (UnpackedFloat.unpack Format.binary64 (UnpackedFloat.pack Format.binary64
    (.finite sign mantissa exponent positive))).isFinite = true
  rw [isFinite_unpack, UnpackedFloat.pack]
  dsimp only
  split
  · rename_i large
    exact absurd large fits
  · split
    · rw [UnpackedFloat.unpackExponent_packComponents]
      exact exponent_of_fits fits
    · rw [UnpackedFloat.unpackExponent_packComponents]
      decide

/-- Packing makes no number into something else. -/
theorem isNaN_unpack_pack {value : UnpackedFloat} (number : value.isNaN = false) :
    (pack value).unpack.isNaN = false := by
  cases value with
  | notANumber => cases number
  | infinity sign => cases sign <;> rfl
  | zero sign => cases sign <;> rfl
  | finite sign mantissa exponent positive =>
    by_cases large : 2 ^ 11 ≤ (exponent + 1023 + 52).toNat + 1
    · have packed : UnpackedFloat.pack Format.binary64 (.finite sign mantissa exponent positive) =
          UnpackedFloat.packedInfinity Format.binary64 sign := if_pos large
      change (UnpackedFloat.unpack Format.binary64 (UnpackedFloat.pack Format.binary64
        (.finite sign mantissa exponent positive))).isNaN = false
      rw [packed]
      cases sign <;> rfl
    · exact isNaN_of_isFinite (isFinite_unpack_pack large)

/-- The exponents of finite fractions have an end. -/
theorem exponent_of_unpack {bits : BitVec 64} {sign : UnpackedFloat.Sign} {mantissa : Nat}
    {exponent : Int} {positive : 0 < mantissa}
    (unpacked : UnpackedFloat.unpack Format.binary64 bits =
      .finite sign mantissa exponent positive) : exponent + 1023 + 52 ≤ 2046 := by
  have partly : (@UnpackedFloat.unpackExponent Format.binary64 bits).toNat ≠ 2047 := by
    have finite := (isFinite_unpack bits).mp (by rw [unpacked]; rfl)
    intro full
    exact finite (BitVec.eq_of_toNat_eq full)
  have below : (@UnpackedFloat.unpackExponent Format.binary64 bits).toNat < 2048 :=
    BitVec.isLt _
  rw [UnpackedFloat.unpack] at unpacked
  dsimp only at unpacked
  split at unpacked
  · split at unpacked <;> cases unpacked
  · split at unpacked
    · rename_i least
      split at unpacked
      · cases unpacked
      · injection unpacked with _ _ same
        rw [least] at same
        change (0 : Int) - (1023 + 52) + 1 = exponent at same
        omega
    · injection unpacked with _ _ same
      change _ - ((1023 : Int) + 52) = exponent at same
      omega

/-- Bits stand for a finite fraction unless their exponent is the full one. -/
theorem isFinite_ofBits {bits : UInt64} (partly : bits.toNat / 2 ^ 52 % 2 ^ 11 ≠ 2047) :
    (Float.ofBits bits).isFinite = true := by
  have exponent : @UnpackedFloat.unpackExponent Format.binary64 bits.toBitVec ≠ -1#_ := by
    intro full
    have numbers := congrArg BitVec.toNat full
    rw [UnpackedFloat.unpackExponent, BitVec.toNat_cast, BitVec.extractLsb_toNat] at numbers
    rw [Nat.shiftRight_eq_div_pow] at numbers
    exact partly numbers
  have finite := (isFinite_unpack bits.toBitVec).mpr exponent
  change (pack (UnpackedFloat.unpack Format.binary64 bits.toBitVec)).unpack.isFinite = true
  cases unpacked : UnpackedFloat.unpack Format.binary64 bits.toBitVec with
  | notANumber =>
    rw [unpacked] at finite
    cases finite
  | infinity sign =>
    rw [unpacked] at finite
    cases finite
  | zero sign => cases sign <;> rfl
  | finite sign mantissa exponent positive =>
    have least := exponent_of_unpack unpacked
    apply isFinite_unpack_pack
    omega

/-! ## Arithmetic -/

/-- Rounding gives a finite fraction before it is packed. -/
theorem isFinite_round (sign : UnpackedFloat.Sign) (mantissa : Nat) (exponent : Int)
    (accuracy : UnpackedFloat.Accuracy) :
    (UnpackedFloat.roundWithAccuracy Format.binary64 sign mantissa exponent accuracy).isFinite =
      true := by
  rw [UnpackedFloat.roundWithAccuracy]
  dsimp only
  split <;> rfl

/-- The product of two finite fractions may be infinite, but it is a number. -/
theorem isNumber_mul {first second : Float} (finite : first.isFinite = true)
    (otherFinite : second.isFinite = true) : IsNumber (first * second) := by
  change (pack (UnpackedFloat.mul Format.binary64 first.toModel.unpack
    second.toModel.unpack)).unpack.isNaN = false
  apply isNaN_unpack_pack
  change first.toModel.unpack.isFinite = true at finite
  change second.toModel.unpack.isFinite = true at otherFinite
  generalize first.toModel.unpack = left at finite
  generalize second.toModel.unpack = right at otherFinite
  cases left with
  | notANumber => cases finite
  | infinity sign => cases finite
  | zero sign => cases right <;> first | rfl | cases otherFinite
  | finite sign mantissa exponent positive =>
    cases right with
    | notANumber => cases otherFinite
    | infinity sign => cases otherFinite
    | zero sign => rfl
    | finite otherSign otherMantissa otherExponent otherPositive =>
      exact isNaN_of_isFinite (isFinite_round ..)

/-- A hundred times a number is a number. -/
theorem isNumber_percent {share : Float} (number : IsNumber share) :
    IsNumber (share * 100.0) := by
  obtain ⟨mantissa, exponent, positive, hundred⟩ : ∃ mantissa exponent positive,
      (100.0 : Float).toModel.unpack = .finite .positive mantissa exponent positive :=
    ⟨_, _, _, rfl⟩
  change (pack (UnpackedFloat.mul Format.binary64 share.toModel.unpack
    (100.0 : Float).toModel.unpack)).unpack.isNaN = false
  rw [hundred]
  apply isNaN_unpack_pack
  change share.toModel.unpack.isNaN = false at number
  cases unpacked : share.toModel.unpack with
  | notANumber =>
    rw [unpacked] at number
    cases number
  | infinity sign => rfl
  | zero sign => rfl
  | finite sign mantissa exponent => exact isNaN_of_isFinite (isFinite_round ..)

/-! ## Quotients of whole numbers -/

theorem isFinite_of_ofQuotient? {negative : Bool} {num den : Nat} {value : Float}
    (rounded : ofQuotient? negative num den = some value) : value.isFinite = true := by
  rw [ofQuotient?] at rounded
  generalize (if num = 0 then 0 else quotientBits num den) = bits at rounded
  by_cases below : bits < infinityBits
  · have limit : bits < 2047 * 2 ^ 52 := below
    rw [if_pos below] at rounded
    cases rounded
    apply isFinite_ofBits
    rw [UInt64.toNat_ofNat']
    cases negative
    · rw [if_neg Bool.false_ne_true]
      omega
    · rw [if_pos rfl]
      omega
  · rw [if_neg below] at rounded
    cases rounded

theorem isFinite_of_divide {num : Int} {den : Nat} {value : Float}
    (divided : divide num den = .ok value) : value.isFinite = true := by
  rw [divide] at divided
  split at divided
  · rename_i rounded
    cases divided
    exact isFinite_of_ofQuotient? rounded
  · cases divided

theorem isFinite_of_ofInt {number : Int} {value : Float} (rounded : ofInt number = .ok value) :
    value.isFinite = true := by
  rw [ofInt] at rounded
  split at rounded
  · rename_i exact_value
    cases rounded
    exact isFinite_of_ofQuotient? exact_value
  · cases rounded

end Binary64
end ContainerFleet
