/-!
# Decimal digits

Reading runs of ASCII digits and writing numbers with leading zeros.  A run
is read as the number it spells; a number is written with at least the asked
count of digits.
-/

namespace ContainerFleet
namespace Digits

/-- The value of one ASCII digit; other characters count as nothing. -/
def valueOf (char : Char) : Nat :=
  char.toNat - '0'.toNat

/-- The number that a run of digits spells. -/
def value (digits : List Char) : Nat :=
  digits.foldl (fun total char => 10 * total + valueOf char) 0

/-- The longest run of ASCII digits at the front, and what follows it. -/
def split (chars : List Char) : List Char × List Char :=
  (chars.takeWhile Char.isDigit, chars.dropWhile Char.isDigit)

/-- Exactly `count` digits at the front, and what follows them. -/
def take? : Nat → List Char → Option (List Char × List Char)
  | 0, chars => some ([], chars)
  | _ + 1, [] => none
  | count + 1, char :: rest =>
    if char.isDigit then (take? count rest).map fun (digits, rest) => (char :: digits, rest)
    else none

/-- The decimal digits of a number. -/
def ofNat (number : Nat) : List Char :=
  Nat.toDigits 10 number

/-- The decimal digits of a number, with zeros in front up to `width` digits. -/
def padded (width : Nat) (number : Nat) : List Char :=
  List.replicate (width - (ofNat number).length) '0' ++ ofNat number

theorem split_append (chars : List Char) : (split chars).1 ++ (split chars).2 = chars :=
  List.takeWhile_append_dropWhile

theorem take?_append {count : Nat} {chars digits rest : List Char}
    (taken : take? count chars = some (digits, rest)) : digits ++ rest = chars := by
  induction count generalizing chars digits rest with
  | zero =>
    cases taken
    rfl
  | succ count inductive_step =>
    cases chars with
    | nil => cases taken
    | cons char tail =>
      simp only [take?] at taken
      split at taken
      · simp only [Option.map_eq_some_iff, Prod.mk.injEq, Prod.exists] at taken
        obtain ⟨more, after, inner, rfl, rfl⟩ := taken
        rw [List.cons_append, inductive_step inner]
      · cases taken

end Digits
end ContainerFleet
