import ContainerFleet.Decode.Scalar
import ContainerFleet.Proofs.Json.Grammar

/-!
# Reading numbers

The reader of numbers takes just what the grammar calls a number, provided that what
stands behind it does not go on with the number.
-/

namespace ContainerFleet
namespace Json
namespace Reader

open Digits

/-- A character with which a number may go on. -/
def prolongs (char : Char) : Bool :=
  char.isDigit || char = '.' || char = 'e' || char = 'E'

/-- What ends a number ends each of its parts. -/
theorem ends_of_prolongs {part : Char → Bool}
    (covered : ∀ char, part char = true → prolongs char = true) {rest : List Char}
    (ends : Ends prolongs rest) : Ends part rest := by
  intro char first
  rw [Bool.eq_false_iff]
  intro inPart
  exact Bool.eq_false_iff.mp (ends char first) (covered char inPart)

/-! ## Parts -/

theorem wholeDigits?_of_isWholePart {digits rest : List Char} (whole : IsWholePart digits)
    (ends : Ends Char.isDigit rest) : wholeDigits? (digits ++ rest) = some (digits, rest) := by
  rcases whole with ⟨filled, all, zero⟩
  rcases List.exists_cons_of_ne_nil filled with ⟨first, more, rfl⟩
  by_cases isZero : first = '0'
  · subst isZero
    rcases List.cons.inj (zero rfl) with ⟨-, rfl⟩
    rfl
  · have digit : first.isDigit = true := all first List.mem_cons_self
    have taken := split_append_of_ends all ends
    rw [List.cons_append] at taken ⊢
    rw [wholeDigits?]
    · rw [if_pos digit, taken]
    · rintro ⟨⟩
      exact isZero rfl

theorem isWholePart_of_wholeDigits? {chars digits rest : List Char}
    (found : wholeDigits? chars = some (digits, rest)) :
    IsWholePart digits ∧ chars = digits ++ rest := by
  unfold wholeDigits? at found
  split at found
  · cases found
    exact ⟨⟨List.cons_ne_nil _ _, by decide, fun _ => rfl⟩, rfl⟩
  · rename_i char behind notZero
    split at found
    · rename_i digit
      have joined := split_append (char :: behind)
      have all := allDigits_split (char :: behind)
      have starts : (split (char :: behind)).1 = char :: (split behind).1 := by
        simp [split, digit]
      rw [Option.some.inj found] at joined all starts
      dsimp only at joined all starts
      refine ⟨⟨?_, all, ?_⟩, joined.symm⟩
      · rw [starts]
        exact List.cons_ne_nil _ _
      · rw [starts, List.head?_cons, Option.some.injEq]
        intro zero
        exact absurd zero notZero
    · cases found
  · cases found

theorem fractionDigits_of_spellsPlaces {written places rest : List Char}
    (spelled : SpellsPlaces written places)
    (ends : Ends (fun char => char.isDigit || char = '.') rest) :
    fractionDigits (written ++ rest) = (places, rest) := by
  cases spelled with
  | none =>
    cases rest with
    | nil => rfl
    | cons char rest =>
      have other := ends_cons.mp ends
      rw [Bool.or_eq_false_iff, decide_eq_false_iff_not] at other
      rw [List.nil_append, fractionDigits]
      rintro more ⟨⟩
      exact other.2 rfl
  | some filled all =>
    have digitsEnd : Ends Char.isDigit rest := fun char first =>
      (Bool.or_eq_false_iff.mp (ends char first)).1
    have taken := split_append_of_ends all digitsEnd
    rw [List.cons_append, fractionDigits, taken, if_neg]
    rw [List.isEmpty_iff]
    exact filled

theorem spellsPlaces_fractionDigits (chars : List Char) :
    ∃ written, SpellsPlaces written (fractionDigits chars).1 ∧
      chars = written ++ (fractionDigits chars).2 := by
  unfold fractionDigits
  split
  · rename_i rest
    split
    · exact ⟨[], .none, rfl⟩
    · rename_i filled
      rw [List.isEmpty_iff] at filled
      refine ⟨_, .some filled (allDigits_split rest), ?_⟩
      rw [List.cons_append, split_append]
  · exact ⟨[], .none, rfl⟩

theorem spellsSign_splitSign (chars : List Char) :
    ∃ sign, SpellsSign sign (Decode.splitSign chars).1 ∧
      chars = sign ++ (Decode.splitSign chars).2 := by
  unfold Decode.splitSign
  split
  · exact ⟨['-'], .minus, rfl⟩
  · exact ⟨['+'], .plus, rfl⟩
  · exact ⟨[], .none, rfl⟩

/-- A sign is told from the digits behind it. -/
theorem splitSign_of_spellsSign {sign digits : List Char} {negative : Bool}
    (spelled : SpellsSign sign negative) (filled : digits ≠ []) (all : AllDigits digits)
    (rest : List Char) :
    Decode.splitSign (sign ++ (digits ++ rest)) = (negative, digits ++ rest) := by
  rcases List.exists_cons_of_ne_nil filled with ⟨first, more, rfl⟩
  have digit : first.isDigit = true := all first List.mem_cons_self
  cases spelled with
  | none =>
    rw [List.nil_append, List.cons_append, Decode.splitSign]
    · rintro _ ⟨⟩
      cases digit
    · rintro _ ⟨⟩
      cases digit
  | plus => rfl
  | minus => rfl

/-- Behind its mark an exponent is a sign and digits. -/
theorem exponent?_mark {mark : Char} (isMark : mark = 'e' ∨ mark = 'E') (chars : List Char) :
    exponent? (mark :: chars) =
      if (split (Decode.splitSign chars).2).1 = [] then none
      else some (if (Decode.splitSign chars).1 then
          -(Digits.value (split (Decode.splitSign chars).2).1 : Int)
        else Digits.value (split (Decode.splitSign chars).2).1,
        (split (Decode.splitSign chars).2).2) := by
  rw [exponent?.eq_def]
  dsimp only
  rw [if_pos isMark]
  unfold Decode.splitSign
  split <;> simp

theorem exponent?_of_not_mark {char : Char} (other : ¬ (char = 'e' ∨ char = 'E'))
    (rest : List Char) : exponent? (char :: rest) = none := by
  rw [exponent?.eq_def]
  exact if_neg other

/-- The exponent at the front, where there is one, and what follows. -/
def powerAt (chars : List Char) : Option Int × List Char :=
  match exponent? chars with
  | some (power, rest) => (some power, rest)
  | none => (none, chars)

theorem powerAt_of_spellsPower {written rest : List Char} {power : Option Int}
    (spelled : SpellsPower written power) (ends : Ends prolongs rest) :
    powerAt (written ++ rest) = (power, rest) := by
  cases spelled with
  | none =>
    have no_exponent : exponent? rest = none := by
      cases rest with
      | nil => rfl
      | cons char rest =>
        refine exponent?_of_not_mark ?_ rest
        rintro (rfl | rfl)
        all_goals cases ends_cons.mp ends
    rw [List.nil_append, powerAt, no_exponent]
  | @some mark sign digits negative isMark signed filled all =>
    have digitsEnd : Ends Char.isDigit rest :=
      ends_of_prolongs (fun char digit => by simp [prolongs, digit]) ends
    have behind := splitSign_of_spellsSign signed filled all rest
    have taken := split_append_of_ends all digitsEnd
    rw [powerAt, List.cons_append, List.append_assoc, exponent?_mark isMark, behind]
    dsimp only
    rw [taken, if_neg filled]

theorem spellsPower_powerAt (chars : List Char) :
    ∃ written, SpellsPower written (powerAt chars).1 ∧ chars = written ++ (powerAt chars).2 := by
  rw [powerAt]
  split
  · rename_i power rest found
    cases chars with
    | nil => cases found
    | cons mark chars =>
      by_cases isMark : mark = 'e' ∨ mark = 'E'
      · rw [exponent?_mark isMark] at found
        rcases spellsSign_splitSign chars with ⟨sign, signed, shape⟩
        split at found
        · cases found
        · rename_i filled
          have joined := split_append (Decode.splitSign chars).2
          rcases Prod.mk.inj (Option.some.inj found) with ⟨rfl, rfl⟩
          refine ⟨_, .some isMark signed filled (allDigits_split _), ?_⟩
          rw [List.cons_append, List.append_assoc, joined, ← shape]
      · rw [exponent?_of_not_mark isMark] at found
        cases found
  · exact ⟨[], .none, rfl⟩

/-! ## Numbers -/

/-- A number from its parts.  The limit is on those without places and exponent. -/
def ofParts (negative : Bool) (digits places : List Char) (power : Option Int) :
    Except ReadError Json :=
  if places = [] ∧ power = none then
    if digitLimit < digits.length then .error .malformed
    else .ok (.whole (if negative then -(Digits.value digits : Int) else Digits.value digits))
  else
    .ok (.fraction (Binary64.ofDecimal negative (Digits.value (digits ++ places))
      (power.getD 0 - places.length)))

theorem number_of_wholeDigits? {negative : Bool} {chars digits rest : List Char}
    (whole : wholeDigits? chars = some (digits, rest)) :
    number negative chars =
      (ofParts negative digits (fractionDigits rest).1 (powerAt (fractionDigits rest).2).1).map
        fun document => (document, (powerAt (fractionDigits rest).2).2) := by
  rw [number, whole]
  dsimp only
  rcases fractionDigits rest with ⟨places, behind⟩
  dsimp only
  rw [powerAt, ofParts]
  rcases exponent? behind with _ | ⟨power, after⟩
  · by_cases none : places = []
    · simp only [none, List.isEmpty_nil, Option.isNone_none, Bool.and_self, if_true, and_self]
      split <;> rfl
    · simp [none, Except.map]
  · simp [Except.map]

theorem spellsNumber_of_ofParts {negative : Bool} {digits point places mark : List Char}
    {power : Option Int} {document : Json} (whole : IsWholePart digits)
    (fraction : SpellsPlaces point places) (exponent : SpellsPower mark power)
    (found : ofParts negative digits places power = .ok document) :
    SpellsNumber negative (digits ++ point ++ mark) document := by
  rw [ofParts] at found
  split at found
  · rename_i none
    rcases none with ⟨rfl, rfl⟩
    split at found
    · cases found
    · rename_i short
      cases found
      cases exponent
      cases fraction with
      | none =>
        rw [List.append_nil, List.append_nil]
        exact .whole whole (Nat.le_of_not_lt short)
      | some filled => exact absurd rfl filled
  · rename_i parts
    cases found
    exact .fraction whole fraction exponent (not_and_or.mp parts)

/-- What is read as a number is a number. -/
theorem spellsNumber_of_number {negative : Bool} {chars rest : List Char} {document : Json}
    (found : number negative chars = .ok (document, rest)) :
    ∃ written, SpellsNumber negative written document ∧ chars = written ++ rest := by
  cases whole : wholeDigits? chars with
  | none =>
    rw [number, whole] at found
    cases found
  | some taken =>
    rcases taken with ⟨digits, behind⟩
    rcases isWholePart_of_wholeDigits? whole with ⟨isWhole, rfl⟩
    rcases spellsPlaces_fractionDigits behind with ⟨point, fraction, pointShape⟩
    rcases spellsPower_powerAt (fractionDigits behind).2 with ⟨mark, exponent, markShape⟩
    rw [number_of_wholeDigits? whole] at found
    cases parts : ofParts negative digits (fractionDigits behind).1
        (powerAt (fractionDigits behind).2).1 with
    | error error =>
      rw [parts] at found
      cases found
    | ok number =>
      rw [parts] at found
      rcases Prod.mk.inj (Except.ok.inj found) with ⟨rfl, rfl⟩
      refine ⟨_, spellsNumber_of_ofParts isWhole fraction exponent parts, ?_⟩
      rw [List.append_assoc, List.append_assoc, ← markShape, ← pointShape]

theorem number_of_ofParts {negative : Bool} {digits point places mark rest : List Char}
    {power : Option Int} (whole : IsWholePart digits) (fraction : SpellsPlaces point places)
    (exponent : SpellsPower mark power) (ends : Ends prolongs rest) :
    number negative (digits ++ point ++ mark ++ rest) =
      (ofParts negative digits places power).map fun document => (document, rest) := by
  -- A point ends the digits before it, and the mark of an exponent ends the places.
  have markEnds : Ends (fun char => char.isDigit || char = '.') (mark ++ rest) := by
    cases exponent with
    | none => exact ends_of_prolongs (fun char part => by simp_all [prolongs]) ends
    | some isMark =>
      rcases isMark with rfl | rfl
      all_goals exact ends_cons.mpr rfl
  have pointEnds : Ends Char.isDigit (point ++ (mark ++ rest)) := by
    cases fraction with
    | none => exact fun char first => (Bool.or_eq_false_iff.mp (markEnds char first)).1
    | some => exact ends_cons.mpr rfl
  rw [List.append_assoc, List.append_assoc,
    number_of_wholeDigits? (wholeDigits?_of_isWholePart whole pointEnds),
    fractionDigits_of_spellsPlaces fraction markEnds]
  dsimp only
  rw [powerAt_of_spellsPower exponent ends]

/-- A number is read up to where it ends. -/
theorem number_of_spellsNumber {negative : Bool} {written rest : List Char} {document : Json}
    (spelled : SpellsNumber negative written document) (ends : Ends prolongs rest) :
    number negative (written ++ rest) = .ok (document, rest) := by
  cases spelled with
  | whole isWhole short =>
    have parts : number negative (written ++ [] ++ [] ++ rest) = _ :=
      number_of_ofParts isWhole .none .none ends
    rw [ofParts, if_pos ⟨rfl, rfl⟩, if_neg (Nat.not_lt_of_le short), List.append_nil,
      List.append_nil] at parts
    exact parts
  | fraction isWhole fraction exponent some =>
    rw [number_of_ofParts isWhole fraction exponent ends, ofParts, if_neg (not_and_or.mpr some)]
    rfl

theorem number_ne_tooDeep (negative : Bool) (chars : List Char) :
    number negative chars ≠ .error .tooDeep := by
  cases whole : wholeDigits? chars with
  | none =>
    rw [number, whole]
    rintro ⟨⟩
  | some taken =>
    rw [number_of_wholeDigits? whole, ofParts]
    split
    · split <;> rintro ⟨⟩
    · rintro ⟨⟩

end Reader
end Json
end ContainerFleet
