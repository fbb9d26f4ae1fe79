import ContainerFleet.Proofs.Timestamp.Apart
import ContainerFleet.Proofs.Timestamp.Written
import ContainerFleet.Timestamp.Extract

/-!
# What the ISO-like front captures

The front of a line that is cut out as an ISO-like form consists of a date, a clock, a
fraction and a zone, of which the marks between the parts vary.  `isoFront?` finds such
a front just where there is one, and takes as much of the fraction and of the zone as
there is.
-/

namespace ContainerFleet
namespace Timestamp

open Digits

/-- A zone as it is captured. -/
inductive ZoneText where
  | absent
  | letter
  | signed (colon ahead : Bool) (hours minutes : Nat)
  deriving DecidableEq

namespace ZoneText

/-- The zone that is meant. -/
def zone : ZoneText → Zone
  | .absent | .letter => .universal
  | .signed _ ahead hours minutes => .shifted ahead hours minutes

def write : ZoneText → List Char
  | .absent => []
  | .letter => ['Z']
  | .signed colon ahead hours minutes =>
    Zone.signed ahead hours (if colon then [':'] else []) minutes

/-- Hours and minutes have two digits. -/
def Proper : ZoneText → Prop
  | .absent | .letter => True
  | .signed _ _ hours minutes => hours < 100 ∧ minutes < 100

end ZoneText

/-- The parts of a captured front. -/
structure Capture where
  mark₁ : Char
  mark₂ : Char
  between : Char
  point : Char
  date : Date
  hour : Nat
  minute : Nat
  second : Nat
  fraction : List Char
  zone : ZoneText
  deriving DecidableEq

namespace Capture

/-- What the captured text says as a whole. -/
def fields (capture : Capture) : Fields :=
  ⟨capture.date, capture.hour, capture.minute, capture.second, capture.fraction,
    capture.zone.zone⟩

/-- The date and the clock. -/
def localText (capture : Capture) : List Char :=
  padded 4 capture.date.year ++ capture.mark₁ :: (padded 2 capture.date.month ++
    capture.mark₂ :: (padded 2 capture.date.day ++ capture.between ::
      (padded 2 capture.hour ++ ':' :: (padded 2 capture.minute ++ ':' ::
        padded 2 capture.second))))

def fractionText (capture : Capture) : List Char :=
  if capture.fraction.isEmpty then [] else capture.point :: capture.fraction

def text (capture : Capture) : List Char :=
  capture.localText ++ (capture.fractionText ++ capture.zone.write)

/-- The parts fit into the front. -/
structure Proper (capture : Capture) : Prop where
  mark₁ : isDateMark capture.mark₁ = true
  mark₂ : isDateMark capture.mark₂ = true
  between : capture.between = 'T' ∨ capture.between = ' '
  point : capture.point = '.' ∨ capture.point = ','
  year : capture.date.year < 10000
  month : capture.date.month < 100
  day : capture.date.day < 100
  hour : capture.hour < 100
  minute : capture.minute < 100
  second : capture.second < 100
  fraction : AllDigits capture.fraction
  zone : capture.zone.Proper

/-- The fraction and the zone are taken as far as they go. -/
def Complete (capture : Capture) (rest : List Char) : Prop :=
  fractionRun (capture.fractionText ++ (capture.zone.write ++ rest)) =
      (capture.fractionText, capture.zone.write ++ rest) ∧
    zoneRun (capture.zone.write ++ rest) = (capture.zone.write, rest)

end Capture

/-! ## Fractions and zones -/

/-- A mark with a digit behind it is taken with all digits that follow. -/
theorem fractionRun_marked {mark digit : Char} (isMark : mark = '.' ∨ mark = ',')
    (isDigit : digit.isDigit = true) (rest : List Char) :
    fractionRun (mark :: digit :: rest) =
      (mark :: (split (digit :: rest)).1, (split (digit :: rest)).2) := by
  simp [fractionRun, isMark, isDigit]

theorem fractionRun_digits {mark : Char} {digits rest : List Char}
    (point : mark = '.' ∨ mark = ',') (present : digits ≠ []) (all : AllDigits digits)
    (ends : Ends Char.isDigit rest) :
    fractionRun (mark :: (digits ++ rest)) = (mark :: digits, rest) := by
  rcases List.exists_cons_of_ne_nil present with ⟨digit, more, rfl⟩
  have taken := split_append_of_ends all ends
  rw [List.cons_append] at taken ⊢
  rw [fractionRun_marked point (all digit List.mem_cons_self), taken]

theorem fractionRun_cases {chars fraction rest : List Char}
    (run : fractionRun chars = (fraction, rest)) :
    chars = fraction ++ rest ∧ ∃ point digits, (point = '.' ∨ point = ',') ∧ AllDigits digits ∧
      fraction = if digits.isEmpty then [] else point :: digits := by
  have none_there : AllDigits [] := fun _ member => nomatch member
  unfold fractionRun at run
  split at run
  · rename_i mark digit more
    split at run
    · rename_i shape
      cases run
      obtain ⟨point, isDigit⟩ : (mark = '.' ∨ mark = ',') ∧ digit.isDigit = true := by
        simpa using shape
      refine ⟨congrArg (List.cons mark) (split_append (digit :: more)).symm, mark, _, point,
        allDigits_split (digit :: more), ?_⟩
      have present : (split (digit :: more)).1 = digit :: more.takeWhile Char.isDigit :=
        List.takeWhile_cons_of_pos isDigit
      rw [present]
      exact congrArg (List.cons mark) present
    · cases run
      exact ⟨rfl, '.', [], .inl rfl, none_there, rfl⟩
  · cases run
    exact ⟨rfl, '.', [], .inl rfl, none_there, rfl⟩

theorem zoneRun_signed {colon ahead : Bool} {hours minutes : Nat}
    (proper : (ZoneText.signed colon ahead hours minutes).Proper) (rest : List Char) :
    zoneRun ((ZoneText.signed colon ahead hours minutes).write ++ rest) =
      ((ZoneText.signed colon ahead hours minutes).write, rest) := by
  rcases proper with ⟨hour, minute⟩
  have takeHours := take?_append_of_isRun (isRun_two hour)
  have takeMinutes := take?_append_of_isRun (isRun_two minute)
  rw [ZoneText.write, Zone.signed]
  generalize padded 2 hours = hourText at takeHours
  cases colon with
  | true =>
    generalize padded 2 minutes = minuteText at takeMinutes
    cases ahead <;> simp [zoneRun, Zone.signOf, takeHours, takeMinutes]
  | false =>
    rcases exists_cons_of_isRun (isRun_two minute) with ⟨digit, more, known, isDigit, -⟩
    have noColon : digit ≠ ':' := by
      rintro rfl
      exact absurd isDigit (by decide)
    have takeShown := takeMinutes rest
    rw [known] at takeShown ⊢
    rw [List.cons_append] at takeShown
    cases ahead <;> simp [zoneRun, Zone.signOf, takeHours, takeShown, noColon]

/-- The digits of a captured zone are those of its numbers. -/
theorem write_signed (colon ahead : Bool) {hours minutes : List Char} (hour : IsRun 2 hours)
    (minute : IsRun 2 minutes) :
    (ZoneText.signed colon ahead (value hours) (value minutes)).write =
      Zone.signOf ahead :: (hours ++ (if colon then [':'] else []) ++ minutes) := by
  rw [ZoneText.write, Zone.signed, padded_value hour (by decide), padded_value minute (by decide)]

theorem zoneRun_cases {chars zone rest : List Char} (run : zoneRun chars = (zone, rest)) :
    chars = zone ++ rest ∧ ∃ written : ZoneText, written.Proper ∧ zone = written.write ∧
      (written = .absent → zoneRun rest = ([], rest)) := by
  have nothing (same : ([], chars) = (zone, rest)) :
      chars = zone ++ rest ∧ ∃ written : ZoneText, written.Proper ∧ zone = written.write ∧
        (written = .absent → zoneRun rest = ([], rest)) := by
    cases same
    exact ⟨rfl, .absent, trivial, rfl, fun _ => run⟩
  unfold zoneRun at run
  split at run
  · cases run
    exact ⟨rfl, .letter, trivial, rfl, fun wrong => nomatch wrong⟩
  · rename_i sign more _
    split at run
    · rename_i isSign
      rcases Zone.eq_signOf (by simpa using isSign) with ⟨ahead, rfl⟩
      split at run
      · rename_i hours afterColon takenHours
        rcases take?_eq_some_iff.mp takenHours with ⟨runHours, rfl⟩
        split at run
        · rename_i minutes after takenMinutes
          rcases take?_eq_some_iff.mp takenMinutes with ⟨runMinutes, rfl⟩
          cases run
          refine ⟨by simp, .signed true ahead (value hours) (value minutes),
            ⟨value_lt runHours, value_lt runMinutes⟩, ?_, fun wrong => nomatch wrong⟩
          rw [write_signed true ahead runHours runMinutes]
          simp
        · exact nothing run
      · rename_i hours afterHours _ takenHours
        rcases take?_eq_some_iff.mp takenHours with ⟨runHours, rfl⟩
        split at run
        · rename_i minutes after takenMinutes
          rcases take?_eq_some_iff.mp takenMinutes with ⟨runMinutes, rfl⟩
          cases run
          refine ⟨by simp, .signed false ahead (value hours) (value minutes),
            ⟨value_lt runHours, value_lt runMinutes⟩, ?_, fun wrong => nomatch wrong⟩
          rw [write_signed false ahead runHours runMinutes]
          simp
        · exact nothing run
      · exact nothing run
    · exact nothing run
  · cases run
    exact nothing rfl

/-- A character with which a front may go on. -/
def prolongsFront (char : Char) : Bool :=
  char.isDigit || ['.', ',', 'Z', '+', '-'].contains char

theorem fractionRun_cons {char : Char} (noPoint : char ≠ '.') (noComma : char ≠ ',')
    (rest : List Char) : fractionRun (char :: rest) = ([], char :: rest) := by
  cases rest with
  | nil => rfl
  | cons digit rest => simp [fractionRun, noPoint, noComma]

theorem fractionRun_of_ends {chars : List Char} (ends : Ends prolongsFront chars) :
    fractionRun chars = ([], chars) := by
  cases chars with
  | nil => rfl
  | cons char rest =>
    have other := ends_cons.mp ends
    refine fractionRun_cons ?_ ?_ rest
    all_goals
      rintro rfl
      exact absurd other (by decide)

/-- A captured zone begins with its letter or its sign. -/
theorem ZoneText.exists_head {zone : ZoneText} (zoned : zone ≠ .absent) (rest : List Char) :
    ∃ char more, zone.write ++ rest = char :: more ∧ (char = 'Z' ∨ char = '+' ∨ char = '-') := by
  cases zone with
  | absent => exact absurd rfl zoned
  | letter => exact ⟨'Z', rest, rfl, .inl rfl⟩
  | signed colon ahead hours minutes =>
    cases ahead
    · exact ⟨'-', _, rfl, .inr (.inr rfl)⟩
    · exact ⟨'+', _, rfl, .inr (.inl rfl)⟩

/-- A zone is no part of a fraction. -/
theorem fractionRun_write {zone : ZoneText} (zoned : zone ≠ .absent) (rest : List Char) :
    fractionRun (zone.write ++ rest) = ([], zone.write ++ rest) ∧
      Ends Char.isDigit (zone.write ++ rest) := by
  rcases ZoneText.exists_head zoned rest with ⟨char, more, shape, rfl | rfl | rfl⟩
  all_goals
    rw [shape]
    exact ⟨fractionRun_cons (by decide) (by decide) more, ends_cons.mpr (by decide)⟩

/-- A zone is captured as it stands. -/
theorem zoneRun_write {zone : ZoneText} (zoned : zone ≠ .absent) (proper : zone.Proper)
    (rest : List Char) : zoneRun (zone.write ++ rest) = (zone.write, rest) := by
  cases zone with
  | absent => exact absurd rfl zoned
  | letter => rfl
  | signed colon ahead hours minutes => exact zoneRun_signed proper rest

theorem zoneRun_of_ends {chars : List Char} (ends : Ends prolongsFront chars) :
    zoneRun chars = ([], chars) := by
  unfold zoneRun
  split
  · exact absurd (ends_cons.mp ends) (by decide)
  · rename_i sign rest _
    have other := ends_cons.mp ends
    rw [if_neg]
    intro signed
    have marked : sign = '+' ∨ sign = '-' := by
      simpa using signed
    rcases marked with rfl | rfl <;> exact absurd other (by decide)
  · rfl

namespace Capture

/-- A capture is complete where nothing follows that would prolong it. -/
theorem complete_of_ends {capture : Capture} {rest : List Char} (proper : capture.Proper)
    (ends : Ends prolongsFront rest) : capture.Complete rest := by
  have zone : zoneRun (capture.zone.write ++ rest) = (capture.zone.write, rest) := by
    by_cases zoned : capture.zone = .absent
    · rw [zoned]
      exact zoneRun_of_ends ends
    · exact zoneRun_write zoned proper.zone rest
  have behind : fractionRun (capture.zone.write ++ rest) = ([], capture.zone.write ++ rest) ∧
      Ends Char.isDigit (capture.zone.write ++ rest) := by
    by_cases zoned : capture.zone = .absent
    · rw [zoned]
      exact ⟨fractionRun_of_ends ends, fun char member =>
        (Bool.or_eq_false_iff.mp (ends char member)).1⟩
    · exact fractionRun_write zoned rest
  refine ⟨?_, zone⟩
  rw [fractionText]
  cases digits : capture.fraction with
  | nil => exact behind.1
  | cons digit more =>
    have all := proper.fraction
    rw [digits] at all
    exact fractionRun_digits proper.point (List.cons_ne_nil _ _) all behind.2

/-- The date and the clock are spelled with the marks that stand between them. -/
theorem spells_localText {capture : Capture} (proper : capture.Proper) :
    Layout.SpellAll (Layout.localElements capture.mark₁ capture.mark₂ capture.between) .blank
      ⟨capture.date, capture.hour, capture.minute, capture.second, [], .universal⟩
      capture.localText := by
  have spells := Layout.SpellAll.cons (Element.spells_year proper.year .blank)
    (.cons (.literal capture.mark₁) (.cons (Element.spells_month proper.month _)
      (.cons (.literal capture.mark₂) (.cons (Element.spells_day proper.day _)
        (.cons (.literal capture.between)
          (.cons (Element.spells_clock proper.hour proper.minute proper.second _) (.nil _)))))))
  rwa [List.append_nil] at spells

end Capture

/-! ## The front of a line -/

theorem oneOf?_eq_some_iff {accept : Char → Bool} {char : Char} {chars rest : List Char} :
    oneOf? accept chars = some (char, rest) ↔ chars = char :: rest ∧ accept char = true := by
  cases chars with
  | nil => exact iff_of_false (fun wrong => nomatch wrong) (fun wrong => nomatch wrong.1)
  | cons first more =>
    rw [oneOf?]
    by_cases accepted : accept first = true
    · rw [if_pos accepted]
      constructor
      · rintro ⟨⟩
        exact ⟨rfl, accepted⟩
      · rintro ⟨⟨⟩, -⟩
        rfl
    · rw [if_neg accepted]
      refine iff_of_false (fun wrong => nomatch wrong) ?_
      rintro ⟨⟨⟩, wrong⟩
      exact accepted wrong

/-- A front is found just where the line, without an opening bracket, begins with the
parts of one. -/
theorem isoFront?_eq_some_iff {line front rest : List Char} :
    isoFront? line = some (front, rest) ↔
      ∃ (capture : Capture) (after : List Char), capture.Proper ∧ capture.Complete after ∧
        dropOne openBrackets.contains line = capture.text ++ after ∧ front = capture.text ∧
        rest = dropOne closeBrackets.contains after := by
  rw [isoFront?]
  generalize dropOne openBrackets.contains line = chars
  constructor
  · intro found
    rcases Option.bind_eq_some_iff.mp found with ⟨⟨year, _⟩, takenYear, found⟩
    rcases Option.bind_eq_some_iff.mp found with ⟨⟨mark₁, _⟩, takenMark₁, found⟩
    rcases Option.bind_eq_some_iff.mp found with ⟨⟨month, _⟩, takenMonth, found⟩
    rcases Option.bind_eq_some_iff.mp found with ⟨⟨mark₂, _⟩, takenMark₂, found⟩
    rcases Option.bind_eq_some_iff.mp found with ⟨⟨day, _⟩, takenDay, found⟩
    rcases Option.bind_eq_some_iff.mp found with ⟨⟨between, _⟩, takenBetween, found⟩
    rcases Option.bind_eq_some_iff.mp found with ⟨⟨hour, _⟩, takenHour, found⟩
    rcases Option.bind_eq_some_iff.mp found with ⟨_, colon₁, found⟩
    rcases Option.bind_eq_some_iff.mp found with ⟨⟨minute, _⟩, takenMinute, found⟩
    rcases Option.bind_eq_some_iff.mp found with ⟨_, colon₂, found⟩
    rcases Option.bind_eq_some_iff.mp found with ⟨⟨second, ending⟩, takenSecond, built⟩
    rcases take?_eq_some_iff.mp takenYear with ⟨runYear, rfl⟩
    rcases oneOf?_eq_some_iff.mp takenMark₁ with ⟨rfl, isMark₁⟩
    rcases take?_eq_some_iff.mp takenMonth with ⟨runMonth, rfl⟩
    rcases oneOf?_eq_some_iff.mp takenMark₂ with ⟨rfl, isMark₂⟩
    rcases take?_eq_some_iff.mp takenDay with ⟨runDay, rfl⟩
    rcases oneOf?_eq_some_iff.mp takenBetween with ⟨rfl, isBetween⟩
    rcases take?_eq_some_iff.mp takenHour with ⟨runHour, rfl⟩
    obtain rfl := Element.char?_eq_some_iff.mp colon₁
    rcases take?_eq_some_iff.mp takenMinute with ⟨runMinute, rfl⟩
    obtain rfl := Element.char?_eq_some_iff.mp colon₂
    rcases take?_eq_some_iff.mp takenSecond with ⟨runSecond, rfl⟩
    rcases fraction : fractionRun ending with ⟨fractionText, more⟩
    rcases zone : zoneRun more with ⟨zoneText, after⟩
    rcases fractionRun_cases fraction with ⟨rfl, point, digits, isPoint, allDigits, rfl⟩
    rcases zoneRun_cases zone with ⟨rfl, written, properZone, rfl, -⟩
    dsimp only at built
    rw [fraction] at built
    dsimp only at built
    rw [zone] at built
    cases built
    refine ⟨⟨mark₁, mark₂, between, point, ⟨value year, value month, value day⟩, value hour,
      value minute, value second, digits, written⟩, after,
      ⟨isMark₁, isMark₂, by simpa using isBetween, isPoint, value_lt runYear, value_lt runMonth,
        value_lt runDay, value_lt runHour, value_lt runMinute, value_lt runSecond, allDigits,
        properZone⟩, ⟨fraction, zone⟩, ?_, ?_, rfl⟩
    all_goals
      simp only [Capture.text, Capture.localText, Capture.fractionText,
        padded_value runYear (by decide), padded_value runMonth (by decide),
        padded_value runDay (by decide), padded_value runHour (by decide),
        padded_value runMinute (by decide), padded_value runSecond (by decide),
        List.append_assoc, List.cons_append]
  · rintro ⟨capture, after, proper, ⟨fraction, zone⟩, rfl, rfl, rfl⟩
    have takeYear := take?_append_of_isRun (isRun_padded (by decide) proper.year : IsRun 4 _)
    have between : (decide (capture.between = 'T') || decide (capture.between = ' ')) = true := by
      simpa using proper.between
    simp only [Capture.text, Capture.localText, List.append_assoc, List.cons_append]
    refine Option.bind_eq_some_iff.mpr ⟨_, takeYear _, ?_⟩
    refine Option.bind_eq_some_iff.mpr ⟨_, oneOf?_eq_some_iff.mpr ⟨rfl, proper.mark₁⟩, ?_⟩
    refine Option.bind_eq_some_iff.mpr ⟨_, take?_append_of_isRun (isRun_two proper.month) _, ?_⟩
    refine Option.bind_eq_some_iff.mpr ⟨_, oneOf?_eq_some_iff.mpr ⟨rfl, proper.mark₂⟩, ?_⟩
    refine Option.bind_eq_some_iff.mpr ⟨_, take?_append_of_isRun (isRun_two proper.day) _, ?_⟩
    refine Option.bind_eq_some_iff.mpr ⟨_, oneOf?_eq_some_iff.mpr ⟨rfl, between⟩, ?_⟩
    refine Option.bind_eq_some_iff.mpr ⟨_, take?_append_of_isRun (isRun_two proper.hour) _, ?_⟩
    refine Option.bind_eq_some_iff.mpr ⟨_, Element.char?_eq_some_iff.mpr rfl, ?_⟩
    refine Option.bind_eq_some_iff.mpr ⟨_, take?_append_of_isRun (isRun_two proper.minute) _, ?_⟩
    refine Option.bind_eq_some_iff.mpr ⟨_, Element.char?_eq_some_iff.mpr rfl, ?_⟩
    refine Option.bind_eq_some_iff.mpr ⟨_, take?_append_of_isRun (isRun_two proper.second) _, ?_⟩
    dsimp only
    rw [fraction]
    dsimp only
    rw [zone]
    simp

end Timestamp
end ContainerFleet
