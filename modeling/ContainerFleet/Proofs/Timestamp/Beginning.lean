import ContainerFleet.Proofs.Timestamp.Capture
import ContainerFleet.Proofs.Timestamp.Longest

/-!
# Beginnings of a captured front

A text that begins as a captured front does is read only in a form with the marks of the
capture.  It then says the captured date and clock, and behind them either a part of the
captured fraction and no zone, or the whole fraction and the captured zone.  A zone is
read only behind the marks of the internet forms.
-/

namespace ContainerFleet
namespace Timestamp

open Digits

/-! ## Forms with the year in front -/

namespace Form

/-- The marks between the parts of the date and before the clock, where the year stands
in front. -/
def marks : Form → Option (Char × Char × Char)
  | .listed .internet | .listed .isoLocal | .compact => some ('-', '-', 'T')
  | .listed .spaceLocal => some ('-', '-', ' ')
  | .listed .slashLocal => some ('/', '/', ' ')
  | .listed .accessLog | .listed .ctime | .listed .unixDate | .listed .zonedCtime => none

/-- What stands behind the fraction. -/
def zoneElements : Form → List Element
  | .listed .internet => [.zone]
  | .compact => [.compactZone]
  | _ => []

theorem elements_of_marks {form : Form} {mark₁ mark₂ mark₃ : Char}
    (known : form.marks = some (mark₁, mark₂, mark₃)) :
    form.elements = Layout.localElements mark₁ mark₂ mark₃ ++ .fraction :: form.zoneElements := by
  rcases form with ⟨layout⟩ | _
  · cases layout <;> cases known <;> rfl
  · cases known
    rfl

theorem face_of_marks {form : Form} (unmarked : form.marks = none) :
    form.face = .weekday ∨ form.face = .access := by
  revert unmarked
  rcases form with ⟨layout⟩ | _
  · cases layout <;> decide
  · decide

end Form

namespace Layout

/-- A date and a clock in front of a text tell their marks and what they say. -/
theorem local_unique {mark₁ mark₂ mark₃ mark₁' mark₂' mark₃' : Char} {before after after' : Fields}
    {text text' rest rest' : List Char}
    (spells : SpellAll (localElements mark₁ mark₂ mark₃) before after text)
    (spells' : SpellAll (localElements mark₁' mark₂' mark₃') before after' text')
    (same : text ++ rest = text' ++ rest') :
    (mark₁, mark₂, mark₃) = (mark₁', mark₂', mark₃') ∧ after = after' ∧ text = text' ∧
      rest = rest' := by
  have marks : (mark₁, mark₂, mark₃) = (mark₁', mark₂', mark₃') := by
    rcases text_of_local spells with ⟨year, month, day, clock, runYear, runMonth, runDay, _, rfl⟩
    rcases text_of_local spells' with
      ⟨year', month', day', clock', runYear', runMonth', runDay', _, rfl⟩
    simp only [List.append_assoc, List.cons_append] at same
    rcases List.append_inj same (runYear.1.trans runYear'.1.symm) with ⟨-, same⟩
    rcases List.cons.inj same with ⟨sameMark₁, same⟩
    rcases List.append_inj same (runMonth.1.trans runMonth'.1.symm) with ⟨-, same⟩
    rcases List.cons.inj same with ⟨sameMark₂, same⟩
    rcases List.append_inj same (runDay.1.trans runDay'.1.symm) with ⟨-, same⟩
    rw [sameMark₁, sameMark₂, (List.cons.inj same).1]
  cases marks
  have closed : ∀ rest, Ends (lastProlongs (localElements mark₁ mark₂ mark₃)) rest :=
    fun _ _ _ => rfl
  rcases spellAll_unique rfl spells spells' (closed _) (closed _) same with
    ⟨sameFields, sameText, sameRest⟩
  exact ⟨rfl, sameFields, sameText, sameRest⟩

end Layout

namespace Capture

/-- The date and the clock alone. -/
def localFields (capture : Capture) : Fields :=
  ⟨capture.date, capture.hour, capture.minute, capture.second, [], .universal⟩

theorem noComma_localText {capture : Capture} (proper : capture.Proper) :
    ',' ∉ capture.localText := by
  refine Layout.not_mem_of_spellAll (by decide) ?_ (spells_localText proper)
  have mark : ∀ char, isDateMark char = true → char ≠ ',' := by
    rintro char isMark rfl
    exact absurd isMark (by decide)
  have between : capture.between ≠ ',' := by
    rcases proper.between with known | known <;> rw [known] <;> decide
  simp [Layout.localElements, mark _ proper.mark₁, mark _ proper.mark₂, between]

/-- A form whose text goes on as a captured one has its marks, and says its date and
clock. -/
theorem split_of_spells {capture : Capture} {form : Form} {fields : Fields}
    {whole more rest : List Char} (proper : capture.Proper) (spells : form.Spells fields whole)
    (same : whole ++ more = capture.localText ++ rest) :
    form.marks = some (capture.mark₁, capture.mark₂, capture.between) ∧
      ∃ written, Layout.SpellAll (.fraction :: form.zoneElements) capture.localFields fields written ∧
        written ++ more = rest := by
  cases known : form.marks with
  | none =>
    have face := Form.face_of_spells spells more
    rw [same, Layout.face_of_local [] (spells_localText proper)] at face
    rcases Form.face_of_marks known with wrong | wrong
    all_goals
      rw [wrong] at face
      split at face
      · cases face
      · split at face <;> cases face
  | some marks =>
    rcases marks with ⟨mark₁, mark₂, mark₃⟩
    rw [Form.Spells, Form.elements_of_marks known] at spells
    rcases Layout.spellAll_split _ spells with ⟨middle, front, written, rfl, spellsFront, ending⟩
    rw [List.append_assoc] at same
    rcases Layout.local_unique spellsFront (spells_localText proper) same with ⟨marks, rfl, -, left⟩
    exact ⟨congrArg some marks, written, ending, left⟩

/-- A beginning of a captured text that is read contains the date and the clock, and
goes on with what the form has behind them. -/
theorem split_of_reads {capture : Capture} {rest bare : List Char} {form : Form} {fields : Fields}
    (proper : capture.Proper) (within : bare <+: capture.localText ++ rest)
    (reads : form.Reads fields (pointFraction bare)) :
    form.marks = some (capture.mark₁, capture.mark₂, capture.between) ∧
      ∃ back written ending, bare = capture.localText ++ back ∧
        Layout.SpellAll (.fraction :: form.zoneElements) capture.localFields fields written ∧
        Layout.atEnd ending = true ∧ pointFraction back = written ++ ending := by
  have noComma := noComma_localText proper
  rcases reads with ⟨whole, ending, spells, ended, shape⟩
  rcases List.prefix_or_prefix_of_prefix within (List.prefix_append capture.localText rest) with
    ⟨missing, shorter⟩ | ⟨back, rfl⟩
  · have plain : ',' ∉ bare := fun member => noComma (shorter ▸ List.mem_append_left missing member)
    have same : whole ++ (ending ++ missing) = capture.localText ++ [] := by
      rw [← List.append_assoc, ← shape, pointFraction_of_noComma plain, shorter, List.append_nil]
    rcases split_of_spells proper spells same with ⟨marks, written, spellsBack, left⟩
    simp only [List.append_eq_nil_iff] at left
    rcases left with ⟨nothing, -, none_missing⟩
    rw [none_missing, List.append_nil] at shorter
    rw [nothing] at spellsBack
    exact ⟨marks, [], [], [], by rw [shorter, List.append_nil], spellsBack, rfl, rfl⟩
  · rw [pointFraction_append noComma] at shape
    rcases split_of_spells proper spells shape.symm with ⟨marks, written, spellsBack, left⟩
    exact ⟨marks, back, written, ending, rfl, spellsBack, ended, left.symm⟩

/-- The capture with only some digits of its fraction, and without its zone. -/
def shortened (capture : Capture) (digits : List Char) : Capture :=
  { capture with fraction := digits, zone := .absent }

end Capture

/-! ## Fractions and zones behind the clock -/

theorem noPoint_of_allDigits {digits : List Char} (all : AllDigits digits) : '.' ∉ digits :=
  fun member => absurd (all '.' member) (by decide)

/-- What a form has behind the fraction: nothing, or a zone. -/
theorem zone_of_spells {form : Form} {before after : Fields} {written : List Char}
    (spells : Layout.SpellAll form.zoneElements before after written) :
    (written = [] ∧ after = before) ∨
      (form.marks = some ('-', '-', 'T') ∧ ∃ zone : ZoneText, zone ≠ .absent ∧ zone.Proper ∧
        written = zone.write) := by
  have nothing (none_there : Layout.SpellAll [] before after written) :
      written = [] ∧ after = before := by
    cases none_there
    exact ⟨rfl, rfl⟩
  rcases form with ⟨layout⟩ | _
  · cases layout with
    | isoLocal | spaceLocal | slashLocal | accessLog | ctime | unixDate | zonedCtime =>
      exact .inl (nothing spells)
    | internet =>
      rcases Layout.exists_of_spellAll_cons spells with ⟨_, text, _, rfl, spellsZone, last⟩
      cases last
      rw [List.append_nil]
      cases spellsZone with
      | universal => exact .inr ⟨rfl, .letter, ZoneText.noConfusion, trivial, rfl⟩
      | shifted ahead hour minute =>
        exact .inr ⟨rfl, .signed true ahead _ _, ZoneText.noConfusion,
          ⟨value_lt hour, value_lt minute⟩, by simp [write_signed true ahead hour minute]⟩
  · rcases Layout.exists_of_spellAll_cons spells with ⟨_, text, _, rfl, spellsZone, last⟩
    cases last
    rw [List.append_nil]
    cases spellsZone with
    | compact ahead hour minute =>
      exact .inr ⟨rfl, .signed false ahead _ _, ZoneText.noConfusion,
        ⟨value_lt hour, value_lt minute⟩, by simp [write_signed false ahead hour minute]⟩

theorem noMark_behind_digits {digits rest : List Char} (all : AllDigits digits)
    (noPoint : '.' ∉ rest) (noComma : ',' ∉ rest) : '.' ∉ digits ++ rest ∧ ',' ∉ digits ++ rest := by
  rw [List.mem_append, List.mem_append, not_or, not_or]
  exact ⟨⟨noPoint_of_allDigits all, noPoint⟩, noComma_of_allDigits all, noComma⟩

/-- Digits in front of a text are among its first ones, where another character ends these. -/
theorem prefix_of_ends {taken digits rest : List Char} (all : AllDigits taken)
    (ends : Ends Char.isDigit rest) (within : taken <+: digits ++ rest) : taken <+: digits := by
  rcases List.prefix_or_prefix_of_prefix within (List.prefix_append digits rest) with
    shorter | ⟨more, rfl⟩
  · exact shorter
  · rw [List.prefix_append_right_inj] at within
    cases more with
    | nil => exact ⟨[], by rw [List.append_nil, List.append_nil]⟩
    | cons digit more =>
      rcases within with ⟨later, rfl⟩
      have isDigit := all digit (by simp)
      rw [List.cons_append, ends_cons, isDigit] at ends
      cases ends

/-- In front of digits, and perhaps a line feed, the point was a mark of a fraction. -/
theorem exists_mark_of_pointFraction {back digits ending : List Char} (all : AllDigits digits)
    (ended : Layout.atEnd ending = true) (word : pointFraction back = '.' :: (digits ++ ending)) :
    ∃ mark, (mark = '.' ∨ mark = ',') ∧ back = mark :: (digits ++ ending) := by
  have none_there : '.' ∉ ending ∧ ',' ∉ ending := by
    rcases Layout.atEnd_iff.mp ended with rfl | rfl <;> decide
  rcases noMark_behind_digits all none_there.1 none_there.2 with ⟨noPoint, noComma⟩
  rcases cons_of_pointFraction word noPoint noComma with known | ⟨known, -⟩
  · exact ⟨'.', .inl rfl, known⟩
  · exact ⟨',', .inr rfl, known⟩

/-- What is behind the fraction in a form with the zone. -/
def ZoneText.elements : ZoneText → List Element
  | .absent => []
  | .letter | .signed true .. => [.zone]
  | .signed false .. => [.compactZone]

theorem ZoneText.spells_write {zone : ZoneText} (proper : zone.Proper) {before : Fields}
    (unzoned : before.zone = .universal) :
    Layout.SpellAll zone.elements before { before with zone := zone.zone } zone.write := by
  have universal : { before with zone := .universal } = before := by rw [← unzoned]
  cases zone with
  | absent => exact universal ▸ .nil before
  | letter => exact .cons .universal (.nil _)
  | signed colon ahead hours minutes =>
    rcases proper with ⟨hour, minute⟩
    rw [← List.append_nil (ZoneText.write _)]
    cases colon with
    | true => exact .cons (Element.spells_shifted hour minute before) (.nil _)
    | false => exact .cons (Element.spells_compact hour minute before) (.nil _)

namespace Capture

/-- The form has the marks of the capture, and the zone where the capture has it. -/
def Fits (capture : Capture) (form : Form) : Prop :=
  form.marks = some (capture.mark₁, capture.mark₂, capture.between) ∧
    form.zoneElements = capture.zone.elements

/-- A capture without a comma is spelled by a form that fits. -/
theorem spells_text {capture : Capture} {form : Form} (proper : capture.Proper)
    (fits : capture.Fits form) (pointed : capture.fraction = [] ∨ capture.point = '.') :
    form.Spells capture.fields capture.text := by
  rcases fits with ⟨marks, zone⟩
  have fraction : Element.fraction.Spells capture.localFields
      { capture.localFields with fraction := capture.fraction } capture.fractionText := by
    rw [fractionText]
    cases digits : capture.fraction with
    | nil => exact .whole
    | cons digit more =>
      have point : capture.point = '.' := by
        rcases pointed with wrong | point
        · rw [digits] at wrong
          cases wrong
        · exact point
      have all := proper.fraction
      rw [digits] at all
      rw [point]
      exact .fraction (List.cons_ne_nil _ _) all
  rw [Form.Spells, Form.elements_of_marks marks, zone]
  exact Layout.spellAll_append (spells_localText proper)
    (.cons fraction (ZoneText.spells_write proper.zone rfl))

/-- A zone and the end of a text have neither of the marks of a fraction. -/
theorem noMark_of_zone (zone : ZoneText) {ending : List Char} (ended : Layout.atEnd ending = true) :
    '.' ∉ zone.write ++ ending ∧ ',' ∉ zone.write ++ ending := by
  have point := fun number => noPoint_of_allDigits (allDigits_padded 2 number)
  have comma := fun number => noComma_of_allDigits (allDigits_padded 2 number)
  have noMark : '.' ∉ zone.write ∧ ',' ∉ zone.write := by
    cases zone with
    | absent | letter => exact ⟨by decide, by decide⟩
    | signed colon ahead hours minutes =>
      cases colon <;> cases ahead <;>
        simp [ZoneText.write, Zone.signed, Zone.signOf, point, comma]
  rcases Layout.atEnd_iff.mp ended with rfl | rfl
  · rwa [List.append_nil]
  · simp [noMark]

/-- What stands behind the clock begins with the mark of the fraction, or with the zone. -/
theorem head_of_fractionText {capture : Capture} {char : Char} {tail rest : List Char}
    (within : char :: tail <+: capture.fractionText ++ rest) :
    (capture.fraction = [] ∧ char :: tail <+: rest) ∨
      (capture.fraction ≠ [] ∧ char = capture.point ∧ tail <+: capture.fraction ++ rest) := by
  rw [fractionText] at within
  cases digits : capture.fraction with
  | nil =>
    rw [digits] at within
    exact .inl ⟨rfl, within⟩
  | cons digit more =>
    rw [digits] at within
    rcases List.cons_prefix_cons.mp within with ⟨same, within⟩
    exact .inr ⟨List.cons_ne_nil _ _, same, within⟩

theorem fractionText_of_ne {capture : Capture} (present : capture.fraction ≠ []) :
    capture.fractionText = capture.point :: capture.fraction := by
  rw [fractionText, if_neg]
  rwa [List.isEmpty_iff]

/-- No digit follows a fraction that is captured as far as it goes. -/
theorem ends_of_complete {capture : Capture} {rest : List Char} (proper : capture.Proper)
    (complete : capture.Complete rest) (present : capture.fraction ≠ []) :
    Ends Char.isDigit (capture.zone.write ++ rest) := by
  have taken := complete.1
  rw [fractionText_of_ne present] at taken
  generalize capture.zone.write ++ rest = behind at taken
  have left : behind.dropWhile Char.isDigit = behind := by
    have cut : (split (capture.fraction ++ behind)).2 = behind := by
      rcases List.exists_cons_of_ne_nil present with ⟨digit, more, shape⟩
      have isDigit : digit.isDigit = true := proper.fraction digit (by rw [shape]; simp)
      rw [shape] at taken ⊢
      exact (Prod.mk.inj ((fractionRun_marked proper.point isDigit _).symm.trans taken)).2
    rwa [split, List.dropWhile_append_of_pos proper.fraction] at cut
  intro char first
  have stops := List.head?_dropWhile_not Char.isDigit behind
  rw [left, Option.mem_def.mp first] at stops
  exact stops

/-- Where a beginning is read without a zone, it has but some digits of the fraction, and
perhaps a line feed. -/
theorem unzoned_of_reads {capture : Capture} {back fraction ending rest : List Char}
    {before fields : Fields} (proper : capture.Proper) (complete : capture.Complete rest)
    (within : back <+: capture.fractionText ++ (capture.zone.write ++ rest))
    (spells : Element.fraction.Spells before fields fraction) (none_before : before.fraction = [])
    (ended : Layout.atEnd ending = true) (word : pointFraction back = fraction ++ ending) :
    ∃ digits, digits <+: capture.fraction ∧
      back = (capture.shortened digits).fractionText ++ ending ∧
        fields = { before with fraction := digits } := by
  cases spells with
  | whole =>
    rcases noMark_of_zone .absent ended with ⟨noPoint, noComma⟩
    obtain rfl := eq_of_pointFraction word noPoint noComma
    exact ⟨[], List.nil_prefix, rfl, by rw [← none_before]⟩
  | @fraction digits present all =>
    rcases exists_mark_of_pointFraction all ended word with ⟨mark, isMark, rfl⟩
    rcases head_of_fractionText within with ⟨nothing, later⟩ | ⟨captured, rfl, behind⟩
    · -- A fraction would have been captured.
      rcases List.exists_cons_of_ne_nil present with ⟨digit, more, rfl⟩
      rcases later with ⟨others, shape⟩
      have isDigit : digit.isDigit = true := all digit List.mem_cons_self
      have taken := complete.1
      have whole : capture.fractionText = [] := by rw [fractionText, nothing]; rfl
      rw [whole, ← shape] at taken
      cases (fractionRun_marked isMark isDigit _).symm.trans taken
    · have shorter : digits <+: capture.fraction :=
        prefix_of_ends all (ends_of_complete proper complete captured)
          ((List.prefix_append digits ending).trans behind)
      refine ⟨digits, shorter, ?_, rfl⟩
      rw [fractionText_of_ne present]
      rfl

/-- A line feed behind some digits of the fraction is behind the whole fraction. -/
theorem whole_of_feed {capture : Capture} {digits more rest : List Char} (proper : capture.Proper)
    (shorter : digits <+: capture.fraction)
    (same : (capture.shortened digits).fractionText ++ '\n' :: more = capture.fractionText ++ rest) :
    digits = capture.fraction ∧ rest = '\n' :: more := by
  rcases shorter with ⟨missing, whole⟩
  cases missing with
  | nil =>
    rw [List.append_nil] at whole
    refine ⟨whole, ?_⟩
    rw [whole] at same
    exact (List.append_cancel_left same).symm
  | cons digit missing =>
    have isDigit : digit.isDigit = true := proper.fraction digit (by rw [← whole]; simp)
    have captured : capture.fraction ≠ [] := by rw [← whole]; simp
    rw [fractionText_of_ne captured, ← whole] at same
    cases digits with
    | nil =>
      have feed : '\n' = capture.point := (List.cons.inj same).1
      rcases proper.point with point | point <;> rw [point] at feed <;> cases feed
    | cons first digits =>
      have behind : (first :: digits) ++ '\n' :: more =
          (first :: digits) ++ digit :: (missing ++ rest) :=
        (List.cons.inj same).2.trans (List.append_assoc ..)
      cases (List.cons.inj (List.append_cancel_left behind)).1
      cases isDigit

theorem shortened_text {capture : Capture} (digits : List Char) :
    (capture.shortened digits).text =
      capture.localText ++ (capture.shortened digits).fractionText := by
  rw [text, ← List.append_assoc]
  exact List.append_nil _

/-- Between some digits of the fraction and a captured zone there is no line feed. -/
theorem ending_of_zoned {capture : Capture} {digits ending rest : List Char}
    (proper : capture.Proper) (zoned : capture.zone ≠ .absent) (shorter : digits <+: capture.fraction)
    (ended : Layout.atEnd ending = true)
    (within : (capture.shortened digits).text ++ ending <+: capture.text ++ rest) : ending = [] := by
  rcases Layout.atEnd_iff.mp ended with rfl | rfl
  · rfl
  · rcases within with ⟨later, same⟩
    rcases ZoneText.exists_head zoned rest with ⟨sign, more, shape, isSign⟩
    rw [shortened_text, text] at same
    simp only [List.append_assoc] at same
    have feed := (whole_of_feed proper shorter (List.append_cancel_left same)).2
    rw [shape] at feed
    cases (List.cons.inj feed).1
    rcases isSign with wrong | wrong | wrong <;> cases wrong

/-- Where a beginning is read with a zone, it has the captured fraction and zone. -/
theorem whole_of_reads {capture : Capture} {back fraction ending rest : List Char} {zone : ZoneText}
    {before fields : Fields} (complete : capture.Complete rest)
    (within : back <+: capture.fractionText ++ (capture.zone.write ++ rest))
    (spells : Element.fraction.Spells before fields fraction)
    (zoned : zone ≠ .absent) (properZone : zone.Proper)
    (ended : Layout.atEnd ending = true)
    (word : pointFraction back = fraction ++ (zone.write ++ ending)) :
    (capture.fraction = [] ∨ capture.point = '.') ∧ zone.write = capture.zone.write ∧
      back = capture.fractionText ++ (capture.zone.write ++ ending) := by
  rcases noMark_of_zone zone ended with ⟨noPoint, noComma⟩
  rcases within with ⟨later, whole⟩
  rcases complete with ⟨fractionTaken, zoneTaken⟩
  cases spells with
  | whole =>
    obtain rfl := eq_of_pointFraction word noPoint noComma
    rw [List.nil_append, List.append_assoc] at whole
    rw [← whole, (fractionRun_write zoned _).1] at fractionTaken
    rcases Prod.mk.inj fractionTaken with ⟨none_taken, behind⟩
    rw [← behind, zoneRun_write zoned properZone] at zoneTaken
    rw [← none_taken, ← (Prod.mk.inj zoneTaken).1]
    refine ⟨.inl ?_, rfl, rfl⟩
    by_contra present
    rw [fractionText_of_ne present] at none_taken
    cases none_taken
  | @fraction digits present all =>
    rw [List.cons_append] at word
    rcases noMark_behind_digits all noPoint noComma with ⟨noPoint, noComma⟩
    rcases cons_of_pointFraction word noPoint noComma with known | ⟨-, -, wrong⟩
    · rw [known] at whole ⊢
      rw [List.cons_append, List.append_assoc, List.append_assoc] at whole
      rw [← whole, fractionRun_digits (.inl rfl) present all (fractionRun_write zoned _).2]
        at fractionTaken
      rcases Prod.mk.inj fractionTaken with ⟨taken, behind⟩
      rw [← behind, zoneRun_write zoned properZone] at zoneTaken
      rw [← taken, ← (Prod.mk.inj zoneTaken).1]
      refine ⟨.inr ?_, rfl, rfl⟩
      rw [fractionText] at taken
      split at taken
      · cases taken
      · exact (List.cons.inj taken).1.symm
    · rcases ZoneText.exists_head zoned ending with ⟨sign, more, shape, isSign⟩
      have isDigit := wrong sign (by rw [shape]; simp)
      rcases isSign with rfl | rfl | rfl <;> exact absurd isDigit (by decide)

theorem exists_fits_of_internet {capture : Capture} (zoned : capture.zone ≠ .absent)
    (marks : (capture.mark₁, capture.mark₂, capture.between) = ('-', '-', 'T')) :
    ∃ form, capture.Fits form := by
  have known : some ('-', '-', 'T') = some (capture.mark₁, capture.mark₂, capture.between) :=
    congrArg some marks.symm
  cases zone : capture.zone with
  | absent => exact absurd zone zoned
  | letter => exact ⟨.listed .internet, known, by rw [zone]; rfl⟩
  | signed colon ahead hours minutes =>
    cases colon with
    | true => exact ⟨.listed .internet, known, by rw [zone]; rfl⟩
    | false => exact ⟨.compact, known, by rw [zone]; rfl⟩

/-- A beginning of a captured front that is read is either cut before the zone, but for a
line feed, or says all that is captured. -/
theorem cases_of_reads {capture : Capture} {rest bare : List Char} {form : Form} {fields : Fields}
    (proper : capture.Proper) (complete : capture.Complete rest)
    (within : bare <+: capture.text ++ rest) (reads : form.Reads fields (pointFraction bare)) :
    (∃ digits ending, digits <+: capture.fraction ∧ Layout.atEnd ending = true ∧
      bare = (capture.shortened digits).text ++ ending ∧
        fields = (capture.shortened digits).fields) ∨
      ((capture.mark₁, capture.mark₂, capture.between) = ('-', '-', 'T') ∧
        (capture.fraction = [] ∨ capture.point = '.') ∧ fields = capture.fields) := by
  rw [text, List.append_assoc, List.append_assoc] at within
  rcases split_of_reads proper within reads with
    ⟨marks, back, written, ending, rfl, spells, ended, word⟩
  rw [List.prefix_append_right_inj] at within
  rcases Layout.exists_of_spellAll_cons spells with
    ⟨middle, fraction, zoneText, rfl, spellsFraction, spellsZone⟩
  rw [List.append_assoc] at word
  rcases zone_of_spells spellsZone with ⟨rfl, rfl⟩ | ⟨zonedMarks, zone, present, properZone, rfl⟩
  · rcases unzoned_of_reads proper complete within spellsFraction rfl ended word with
      ⟨digits, shorter, rfl, rfl⟩
    refine .inl ⟨digits, ending, shorter, ended, ?_, rfl⟩
    rw [shortened_text, List.append_assoc]
  · rcases whole_of_reads complete within spellsFraction present properZone ended word with
      ⟨pointed, same, rfl⟩
    have zoned : capture.zone ≠ .absent := by
      rcases ZoneText.exists_head present [] with ⟨char, more, head, -⟩
      intro absent
      rw [same, absent] at head
      cases head
    have internet : (capture.mark₁, capture.mark₂, capture.between) = ('-', '-', 'T') :=
      Option.some.inj (marks.symm.trans zonedMarks)
    rcases exists_fits_of_internet zoned internet with ⟨other, fits⟩
    have spellsText := spells_text proper fits pointed
    have noComma : ',' ∉ ending := (noMark_of_zone .absent ended).2
    rw [← List.append_assoc capture.fractionText, ← List.append_assoc, ← text,
      pointFraction_append (Form.noComma_of_spells spellsText),
      pointFraction_of_noComma noComma] at reads
    have whole : other.Reads capture.fields (capture.text ++ ending) :=
      ⟨capture.text, ending, spellsText, ended, rfl⟩
    exact .inr ⟨internet, pointed, (Form.reads_unique reads whole).2⟩

end Capture
end Timestamp
end ContainerFleet
