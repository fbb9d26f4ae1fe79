import ContainerFleet.Text.Digits
import Mathlib.Data.List.Induction
import Mathlib.Data.List.TakeWhile

/-!
# Runs of digits

A run of as many digits as its width asks for and the number that it spells stand for
each other.  Reading takes just such a run; a run of any length is taken up to the
first character that is no digit.
-/

namespace ContainerFleet
namespace Digits

/-- All characters are digits. -/
def AllDigits (chars : List Char) : Prop :=
  ∀ char ∈ chars, char.isDigit = true

instance (chars : List Char) : Decidable (AllDigits chars) :=
  decidable_of_iff (chars.all Char.isDigit = true) List.all_eq_true

/-- A run of a given number of digits. -/
def IsRun (count : Nat) (chars : List Char) : Prop :=
  chars.length = count ∧ AllDigits chars

theorem isRun_cons {count : Nat} {char : Char} {digits : List Char} :
    IsRun (count + 1) (char :: digits) ↔ char.isDigit = true ∧ IsRun count digits := by
  rw [IsRun, IsRun, List.length_cons, Nat.add_right_cancel_iff, AllDigits, List.forall_mem_cons]
  exact and_left_comm

theorem exists_cons_of_isRun {count : Nat} {digits : List Char} (run : IsRun (count + 1) digits) :
    ∃ digit more, digits = digit :: more ∧ digit.isDigit = true ∧ IsRun count more := by
  cases digits with
  | nil => exact absurd run.1 (Nat.zero_ne_add_one count)
  | cons digit more => exact ⟨digit, more, rfl, isRun_cons.mp run⟩

theorem isRun_zero {digits : List Char} : IsRun 0 digits ↔ digits = [] := by
  constructor
  · intro run
    exact List.length_eq_zero_iff.mp run.1
  · rintro rfl
    exact ⟨rfl, fun _ member => nomatch member⟩

/-- No character satisfying `extending` stands at the front. -/
def Ends (extending : Char → Bool) (rest : List Char) : Prop :=
  ∀ char ∈ rest.head?, extending char = false

theorem ends_nil (extending : Char → Bool) : Ends extending [] :=
  fun _ member => nomatch member

theorem ends_cons {extending : Char → Bool} {char : Char} {rest : List Char} :
    Ends extending (char :: rest) ↔ extending char = false := by
  simp [Ends]

/-! ## Numbers and their digits -/

theorem value_ofNat (number : Nat) : value (ofNat number) = number :=
  Nat.ofDigitChars_ten_toDigits

theorem value_append (digits more : List Char) :
    value (digits ++ more) =
      more.foldl (fun total char => 10 * total + valueOf char) (value digits) :=
  List.foldl_append

theorem value_snoc (digits : List Char) (char : Char) :
    value (digits ++ [char]) = 10 * value digits + valueOf char := by
  rw [value_append]
  rfl

theorem value_zeros (count : Nat) : value (List.replicate count '0') = 0 := by
  induction count with
  | zero => rfl
  | succ count inductionHypothesis =>
    rw [List.replicate_succ', value_snoc, inductionHypothesis]
    rfl

theorem value_padded (width number : Nat) : value (padded width number) = number := by
  rw [padded, value_append, value_zeros]
  exact value_ofNat number

theorem allDigits_ofNat (number : Nat) : AllDigits (ofNat number) :=
  fun _ member => Nat.isDigit_of_mem_toDigits (by decide) (by decide) member

theorem allDigits_append {digits more : List Char} :
    AllDigits (digits ++ more) ↔ AllDigits digits ∧ AllDigits more := by
  simp only [AllDigits, List.forall_mem_append]

theorem allDigits_zeros (count : Nat) : AllDigits (List.replicate count '0') := by
  intro char member
  rw [List.eq_of_mem_replicate member]
  rfl

theorem allDigits_padded (width number : Nat) : AllDigits (padded width number) :=
  allDigits_append.mpr ⟨allDigits_zeros _, allDigits_ofNat number⟩

theorem length_ofNat_le {width number : Nat} (positive : 0 < width)
    (small : number < Nat.pow 10 width) : (ofNat number).length ≤ width :=
  (Nat.length_toDigits_le_iff (by decide) positive).mpr small

theorem isRun_padded {width number : Nat} (positive : 0 < width)
    (small : number < Nat.pow 10 width) : IsRun width (padded width number) := by
  refine ⟨?_, allDigits_padded width number⟩
  have fits := length_ofNat_le positive small
  rw [padded, List.length_append, List.length_replicate]
  omega

theorem digit_valueOf {char : Char} (digit : char.isDigit = true) :
    valueOf char < 10 ∧ Nat.digitChar (valueOf char) = char := by
  have code : 48 ≤ char.toNat ∧ char.toNat ≤ 57 := by
    simpa [Char.isDigit, UInt32.le_iff_toNat_le] using digit
  have value : valueOf char = char.toNat - 48 := rfl
  have back : char = Char.ofNat char.toNat := (Char.ofNat_toNat char).symm
  have cases_of_code : char.toNat = 48 ∨ char.toNat = 49 ∨ char.toNat = 50 ∨ char.toNat = 51 ∨
      char.toNat = 52 ∨ char.toNat = 53 ∨ char.toNat = 54 ∨ char.toNat = 55 ∨
      char.toNat = 56 ∨ char.toNat = 57 := by
    omega
  rcases cases_of_code with code | code | code | code | code | code | code | code | code | code
  all_goals
    rw [value, back, code]
    decide

theorem value_lt {count : Nat} {digits : List Char} (run : IsRun count digits) :
    value digits < Nat.pow 10 count := by
  rcases run with ⟨rfl, all⟩
  induction digits using List.reverseRecOn with
  | nil => decide
  | append_singleton digits char inductionHypothesis =>
    rcases allDigits_append.mp all with ⟨front, last⟩
    have bound := inductionHypothesis front
    have digit := (digit_valueOf (last char (List.mem_singleton_self char))).1
    have power : Nat.pow 10 (digits.length + 1) = Nat.pow 10 digits.length * 10 := rfl
    rw [value_snoc, List.length_append, List.length_singleton, power]
    omega

/-- A wider run has the digits of the quotient and then the last digit. -/
theorem padded_succ {width : Nat} (positive : 0 < width) (number : Nat) :
    padded (width + 1) number = padded width (number / 10) ++ [Nat.digitChar (number % 10)] := by
  rcases Nat.lt_or_ge number 10 with small | large
  · have quotient : number / 10 = 0 := Nat.div_eq_of_lt small
    have zero : ofNat 0 = ['0'] := rfl
    have single : ofNat number = [Nat.digitChar number] := Nat.toDigits_of_lt_base small
    rw [padded, padded, quotient, zero, single, Nat.mod_eq_of_lt small, List.length_singleton,
      List.length_singleton, ← List.replicate_succ', Nat.sub_add_cancel positive,
      Nat.add_sub_cancel]
  · have longer : ofNat number = ofNat (number / 10) ++ [Nat.digitChar (number % 10)] :=
      Nat.toDigits_of_base_le (by decide) large
    rw [padded, padded, longer, List.length_append, List.length_singleton,
      Nat.add_sub_add_right, List.append_assoc]

theorem padded_value {count : Nat} {digits : List Char} (run : IsRun count digits)
    (positive : 0 < count) : padded count (value digits) = digits := by
  rcases run with ⟨rfl, all⟩
  induction digits using List.reverseRecOn with
  | nil => exact absurd positive (Nat.lt_irrefl 0)
  | append_singleton digits char inductionHypothesis =>
    rcases allDigits_append.mp all with ⟨front, last⟩
    rcases digit_valueOf (last char (List.mem_singleton_self char)) with ⟨small, back⟩
    rw [value_snoc, List.length_append, List.length_singleton]
    rcases List.eq_nil_or_concat digits with rfl | ⟨more, final, shape⟩
    · have single : ofNat (valueOf char) = [char] :=
        (Nat.toDigits_of_lt_base small).trans (congrArg List.singleton back)
      have start : 10 * value [] + valueOf char = valueOf char := Nat.zero_add _
      rw [start, padded, single]
      rfl
    · have filled : 0 < digits.length := by
        rw [shape, List.length_concat]
        exact Nat.succ_pos _
      have quotient : (10 * value digits + valueOf char) / 10 = value digits := by omega
      have remainder : (10 * value digits + valueOf char) % 10 = valueOf char := by omega
      rw [padded_succ filled, quotient, remainder, inductionHypothesis front filled, back]

/-! ## Taking runs -/

theorem take?_append_of_isRun {count : Nat} {digits : List Char} (run : IsRun count digits)
    (rest : List Char) : take? count (digits ++ rest) = some (digits, rest) := by
  rcases run with ⟨rfl, all⟩
  induction digits with
  | nil => rfl
  | cons char digits inductionHypothesis =>
    rcases List.forall_mem_cons.mp all with ⟨digit, all⟩
    rw [List.cons_append, List.length_cons, take?, if_pos digit, inductionHypothesis all]
    rfl

theorem isRun_of_take? {count : Nat} {chars digits rest : List Char}
    (taken : take? count chars = some (digits, rest)) : IsRun count digits := by
  induction count generalizing chars digits rest with
  | zero =>
    cases taken
    exact ⟨rfl, fun _ member => nomatch member⟩
  | succ count inductionHypothesis =>
    cases chars with
    | nil => cases taken
    | cons char chars =>
      rw [take?] at taken
      split at taken
      · rename_i digit
        rcases Option.map_eq_some_iff.mp taken with ⟨⟨more, after⟩, inner, same⟩
        cases same
        rcases inductionHypothesis inner with ⟨length, all⟩
        exact ⟨congrArg Nat.succ length, List.forall_mem_cons.mpr ⟨digit, all⟩⟩
      · cases taken

theorem take?_eq_some_iff {count : Nat} {chars digits rest : List Char} :
    take? count chars = some (digits, rest) ↔ IsRun count digits ∧ chars = digits ++ rest := by
  constructor
  · intro taken
    exact ⟨isRun_of_take? taken, (take?_append taken).symm⟩
  · rintro ⟨run, rfl⟩
    exact take?_append_of_isRun run rest

theorem split_append_of_ends {digits rest : List Char} (all : AllDigits digits)
    (ends : Ends Char.isDigit rest) : split (digits ++ rest) = (digits, rest) := by
  have stops : rest.takeWhile Char.isDigit = [] ∧ rest.dropWhile Char.isDigit = rest := by
    cases rest with
    | nil => exact ⟨rfl, rfl⟩
    | cons char rest =>
      have other := Bool.eq_false_iff.mp (ends_cons.mp ends)
      exact ⟨List.takeWhile_cons_of_neg other, List.dropWhile_cons_of_neg other⟩
  rw [split, List.takeWhile_append_of_pos all, List.dropWhile_append_of_pos all, stops.1, stops.2,
    List.append_nil]

theorem allDigits_split (chars : List Char) : AllDigits (split chars).1 :=
  fun _ member => List.mem_takeWhile_imp member

end Digits
end ContainerFleet
