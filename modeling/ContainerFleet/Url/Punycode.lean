/-!
# Names in ASCII

A way to write any characters with letters, figures and hyphens.  The ASCII
characters come first; behind a hyphen follow numbers that say where the
others have to be inserted, in the order of their code points.  Numbers have
digits of base 36 and mark their own end, and the places at which a number may
end adapt to the size of the numbers before it.
-/

namespace ContainerFleet
namespace Url
namespace Punycode

/-- The digit of a value below 36: letters first, then figures. -/
def digit (value : Nat) : Char :=
  Char.ofNat (if value < 26 then 'a'.toNat + value else '0'.toNat + (value - 26))

/-- The value from which on a digit is followed by another. -/
def threshold (bias position : Nat) : Nat :=
  if position ≤ bias + 1 then 1 else if bias + 26 ≤ position then 26 else position - bias

theorem threshold_pos (bias position : Nat) : 0 < threshold bias position := by
  unfold threshold
  split
  · exact Nat.one_pos
  · split <;> omega

/-- The digits of a number, the lowest first. -/
def digits (bias position number : Nat) : List Char :=
  let least := threshold bias position
  if number < least then [digit number]
  else
    digit (least + (number - least) % (36 - least)) ::
      digits bias (position + 36) ((number - least) / (36 - least))
termination_by number
decreasing_by
  have positive := threshold_pos bias position
  have smaller := Nat.div_le_self (number - threshold bias position)
    (36 - threshold bias position)
  omega

/-- Divide a number by 35 until it is small, counting 36 for each division. -/
def shrink (number counted : Nat) : Nat × Nat :=
  if 455 < number then shrink (number / 35) (counted + 36) else (number, counted)
termination_by number
decreasing_by omega

/-- The bias behind a number, the `count`-th of all. -/
def adapt (number count : Nat) (first : Bool) : Nat :=
  let scaled := if first then number / 700 else number / 2
  let (small, counted) := shrink (scaled + scaled / count) 0
  counted + 36 * small / (small + 38)

/-- How far writing has come: the places passed since the last insertion, the
bias, how many characters are there, and the digits written. -/
structure Progress where
  passed : Nat
  bias : Nat
  count : Nat
  written : List Char

/-- Pass over one character while those of one code point are inserted. -/
def Progress.pass (plain code : Nat) (progress : Progress) (char : Char) : Progress :=
  if char.toNat < code then { progress with passed := progress.passed + 1 }
  else if char.toNat = code then
    ⟨0, adapt progress.passed (progress.count + 1) (progress.count = plain), progress.count + 1,
      progress.written ++ digits progress.bias 36 progress.passed⟩
  else progress

/-- Insert the characters of some code points, in order; `reached` is the
lowest that may come. -/
def Progress.insertAll (chars : List Char) (plain : Nat) :
    Progress → (reached : Nat) → List Nat → Progress
  | progress, _, [] => progress
  | progress, reached, code :: later =>
    let skipped := progress.passed + (code - reached) * (progress.count + 1)
    let progress := chars.foldl (Progress.pass plain code) { progress with passed := skipped }
    insertAll chars plain { progress with passed := progress.passed + 1 } (code + 1) later

/-- A text written in ASCII. -/
def encode (chars : List Char) : List Char :=
  let plain := chars.filter fun char => char.toNat < 0x80
  let codes := ((chars.map Char.toNat).filter (0x80 ≤ ·)).mergeSort.eraseDups
  let start : Progress := ⟨0, 72, plain.length, []⟩
  plain ++ (if plain.isEmpty then [] else ['-']) ++
    (start.insertAll chars plain.length 0x80 codes).written

example : encode "b\u00fccher".toList = "bcher-kva".toList := by decide +kernel

end Punycode
end Url
end ContainerFleet
