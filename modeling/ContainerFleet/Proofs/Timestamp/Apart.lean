import ContainerFleet.Proofs.Timestamp.Grammar

/-!
# The forms are apart

No text has two forms.  The first eleven characters tell the forms apart but for those
that begin with the same date.  Of these, the internet forms go on where the local one
ends, with a colon in the zone or without, and the three with a weekday go on with a
digit, a capital or a sign.  What an unambiguous front says does not depend on the text
behind it.
-/

namespace ContainerFleet
namespace Timestamp

open Digits

/-! ## The look of the date -/

/-- How a timestamp begins. -/
inductive Face where
  | internet
  | space
  | slash
  | access
  | weekday
  deriving DecidableEq

/-- The face of a text, told by four of its first eleven characters. -/
def Face.of (text : List Char) : Face :=
  if text[2]? = some '/' then .access
  else if text[3]? = some ' ' then .weekday
  else if text[4]? = some '/' then .slash
  else if text[10]? = some 'T' then .internet
  else .space

/-- The face of what is written in a form. -/
def Form.face : Form → Face
  | .listed .internet | .listed .isoLocal | .compact => .internet
  | .listed .spaceLocal => .space
  | .listed .slashLocal => .slash
  | .listed .accessLog => .access
  | .listed .ctime | .listed .unixDate | .listed .zonedCtime => .weekday

namespace Layout

/-- A date and a clock with the given marks, without a fraction or a zone. -/
def localElements (mark₁ mark₂ mark₃ : Char) : List Element :=
  [.year, .literal mark₁, .month, .literal mark₂, .day, .literal mark₃, .clock]

theorem exists_of_spellAll_cons {element : Element} {later : List Element}
    {before after : Fields} {text : List Char}
    (spells : SpellAll (element :: later) before after text) :
    ∃ middle written more, text = written ++ more ∧ element.Spells before middle written ∧
      SpellAll later middle after more := by
  cases spells with
  | cons first others => exact ⟨_, _, _, rfl, first, others⟩

theorem exists_of_spellAll_literal {char : Char} {later : List Element} {before after : Fields}
    {text : List Char} (spells : SpellAll (.literal char :: later) before after text) :
    ∃ more, text = char :: more ∧ SpellAll later before after more := by
  rcases exists_of_spellAll_cons spells with ⟨middle, written, more, rfl, first, others⟩
  cases first
  exact ⟨more, rfl, others⟩

/-- The text of a date and a clock. -/
theorem text_of_local {mark₁ mark₂ mark₃ : Char} {before after : Fields} {text : List Char}
    (spells : SpellAll (localElements mark₁ mark₂ mark₃) before after text) :
    ∃ year month day clock, IsRun 4 year ∧ IsRun 2 month ∧ IsRun 2 day ∧
      clock.length = 8 ∧ text = year ++ mark₁ :: (month ++ mark₂ :: (day ++ mark₃ :: clock)) := by
  rcases exists_of_spellAll_cons spells with ⟨_, year, _, rfl, spellsYear, afterYear⟩
  rcases exists_of_spellAll_literal afterYear with ⟨_, rfl, fromMonth⟩
  rcases exists_of_spellAll_cons fromMonth with ⟨_, month, _, rfl, spellsMonth, afterMonth⟩
  rcases exists_of_spellAll_literal afterMonth with ⟨_, rfl, fromDay⟩
  rcases exists_of_spellAll_cons fromDay with ⟨_, day, _, rfl, spellsDay, afterDay⟩
  rcases exists_of_spellAll_literal afterDay with ⟨_, rfl, fromClock⟩
  rcases exists_of_spellAll_cons fromClock with ⟨_, clock, _, rfl, spellsClock, ending⟩
  cases ending
  cases spellsYear with
  | year runYear =>
  cases spellsMonth with
  | month runMonth =>
  cases spellsDay with
  | day runDay =>
  cases spellsClock with
  | clock hours minutes seconds =>
    refine ⟨_, _, _, _, runYear, runMonth, runDay, ?_, rfl⟩
    simp only [List.length_append, List.length_cons, List.length_nil, hours.1, minutes.1, seconds.1]

theorem face_of_local {mark₁ mark₂ mark₃ : Char} (later : List Element) {before after : Fields}
    {text : List Char}
    (spells : SpellAll (localElements mark₁ mark₂ mark₃ ++ later) before after text)
    (rest : List Char) :
    Face.of (text ++ rest) =
      if mark₁ = '/' then .slash else if mark₃ = 'T' then .internet else .space := by
  rcases spellAll_split _ spells with ⟨middle, front, back, rfl, spellsFront, -⟩
  rcases text_of_local spellsFront with ⟨year, month, day, clock, run, runMonth, runDay, -, rfl⟩
  rcases exists_cons_of_isRun run with ⟨first, more, rfl, -, run⟩
  rcases exists_cons_of_isRun run with ⟨second, more, rfl, -, run⟩
  rcases exists_cons_of_isRun run with ⟨third, more, rfl, isThird, run⟩
  rcases exists_cons_of_isRun run with ⟨fourth, more, rfl, isFourth, run⟩
  obtain rfl := isRun_zero.mp run
  rcases List.length_eq_two.mp runMonth.1 with ⟨_, _, rfl⟩
  rcases List.length_eq_two.mp runDay.1 with ⟨_, _, rfl⟩
  have noSlash : third ≠ '/' := by
    rintro rfl
    exact absurd isThird (by decide)
  have noBlank : fourth ≠ ' ' := by
    rintro rfl
    exact absurd isFourth (by decide)
  simp [Face.of, noSlash, noBlank]

theorem face_of_weekday {name : List Char} (named : name ∈ weekdayNames) (rest : List Char) :
    Face.of (name ++ ' ' :: rest) = .weekday := by
  have noSlash : ∀ name ∈ weekdayNames, name[2]? ≠ some '/' ∧ name.length = 3 := by decide
  rcases noSlash name named with ⟨noSlash, length⟩
  rcases List.length_eq_three.mp length with ⟨first, second, third, rfl⟩
  have third_ne : third ≠ '/' := fun same => noSlash (congrArg some same)
  simp [Face.of, third_ne]

end Layout

namespace Form

theorem face_of_spells {form : Form} {fields : Fields} {text : List Char}
    (spells : form.Spells fields text) (rest : List Char) : Face.of (text ++ rest) = form.face := by
  rcases form with ⟨layout⟩ | _
  · cases layout with
    | internet => exact Layout.face_of_local [.fraction, .zone] spells rest
    | isoLocal => exact Layout.face_of_local [.fraction] spells rest
    | spaceLocal => exact Layout.face_of_local [.fraction] spells rest
    | slashLocal => exact Layout.face_of_local [.fraction] spells rest
    | accessLog =>
      rcases Layout.exists_of_spellAll_cons spells with ⟨_, day, _, rfl, spellsDay, afterDay⟩
      rcases Layout.exists_of_spellAll_literal afterDay with ⟨_, rfl, -⟩
      cases spellsDay with
      | day run =>
        rcases List.length_eq_two.mp run.1 with ⟨_, _, rfl⟩
        rfl
    | ctime | unixDate | zonedCtime =>
      rcases Layout.exists_of_spellAll_cons spells with ⟨_, name, _, rfl, spellsName, afterName⟩
      rcases Layout.exists_of_spellAll_literal afterName with ⟨_, rfl, -⟩
      cases spellsName with
      | weekday named =>
        rw [List.append_assoc]
        exact Layout.face_of_weekday named _
  · exact Layout.face_of_local [.fraction, .compactZone] spells rest

end Form

/-! ## Unambiguous fronts -/

namespace Layout

/-- The front that some elements spell does not depend on the text behind it, where
that text does not prolong it. -/
theorem spellAll_unique {elements : List Element} {before after after' : Fields}
    {written written' rest rest' : List Char} (separate : separated elements = true)
    (first : SpellAll elements before after written)
    (second : SpellAll elements before after' written')
    (ends : Ends (lastProlongs elements) rest) (ends' : Ends (lastProlongs elements) rest')
    (same : written ++ rest = written' ++ rest') :
    after = after' ∧ written = written' ∧ rest = rest' := by
  have read := readElements_of_spellAll separate first ends
  have read' := readElements_of_spellAll separate second ends'
  rw [same, read'] at read
  cases read
  exact ⟨rfl, List.append_cancel_right same, rfl⟩

theorem atEnd_iff {rest : List Char} : atEnd rest = true ↔ rest = [] ∨ rest = ['\n'] := by
  unfold atEnd
  split <;> simp_all

/-- The end of a text prolongs no form. -/
theorem ends_of_atEnd (form : Form) {rest : List Char} (ended : atEnd rest = true) :
    Ends (lastProlongs form.elements) rest := by
  rcases atEnd_iff.mp ended with rfl | rfl
  · exact ends_nil _
  · rw [ends_cons]
    rcases form with ⟨layout⟩ | _
    · cases layout <;> rfl
    · rfl

/-- A date with a two-digit day behind one blank is one with a loose day. -/
theorem spellAll_looseDay {later : List Element} {before after : Fields} {text : List Char}
    (spells : SpellAll (.literal ' ' :: .day :: later) before after text) :
    SpellAll (.looseDay :: later) before after text := by
  rcases exists_of_spellAll_literal spells with ⟨_, rfl, fromDay⟩
  rcases exists_of_spellAll_cons fromDay with ⟨_, day, more, rfl, spellsDay, afterDay⟩
  cases spellsDay with
  | day run => exact .cons (.looseDay (.inl rfl) (.inr run)) afterDay

end Layout

namespace Form

/-- What the forms with a weekday have in common. -/
def weekdayElements : List Element :=
  [.weekday, .literal ' ', .monthName, .looseDay, .literal ' ', .clock, .fraction, .literal ' ']

/-- The form with a weekday that goes on in a given way. -/
def ofWeekdayEnding : List Char → Form
  | [] => .listed .ctime
  | char :: _ =>
    if char.isDigit then .listed .ctime
    else if char.isUpper then .listed .unixDate
    else .listed .zonedCtime

theorem ofWeekdayEnding_year {later : List Element} {before after : Fields} {text : List Char}
    (spells : Layout.SpellAll (.year :: later) before after text) (rest : List Char) :
    ofWeekdayEnding (text ++ rest) = .listed .ctime := by
  rcases Layout.exists_of_spellAll_cons spells with ⟨_, year, _, rfl, spellsYear, -⟩
  cases spellsYear with
  | year run =>
    rcases exists_cons_of_isRun run with ⟨digit, more, rfl, isDigit, -⟩
    exact if_pos isDigit

theorem ofWeekdayEnding_zoneName {later : List Element} {before after : Fields} {text : List Char}
    (spells : Layout.SpellAll (.zoneName :: later) before after text) (rest : List Char) :
    ofWeekdayEnding (text ++ rest) = .listed .unixDate := by
  rcases Layout.exists_of_spellAll_cons spells with ⟨_, name, _, rfl, spellsName, -⟩
  cases spellsName with
  | zoneName low high capitals =>
    rcases List.exists_cons_of_length_pos (Nat.lt_of_lt_of_le (by decide) low) with
      ⟨capital, more, rfl⟩
    have upper : capital.isUpper = true := capitals capital List.mem_cons_self
    have noDigit : ¬ capital.isDigit = true := by
      have none_upper : ∀ value < 10, (Nat.digitChar value).isUpper = false := by decide
      intro isDigit
      rcases digit_valueOf isDigit with ⟨small, back⟩
      rw [← back, none_upper _ small] at upper
      cases upper
    rw [List.cons_append, List.cons_append, ofWeekdayEnding, if_neg noDigit, if_pos upper]

theorem ofWeekdayEnding_compactZone {later : List Element} {before after : Fields}
    {text : List Char} (spells : Layout.SpellAll (.compactZone :: later) before after text)
    (rest : List Char) : ofWeekdayEnding (text ++ rest) = .listed .zonedCtime := by
  rcases Layout.exists_of_spellAll_cons spells with ⟨_, zone, _, rfl, spellsZone, -⟩
  cases spellsZone with
  | compact ahead hour minute => cases ahead <;> rfl

/-- A text with a weekday has the common front, and its ending tells the form. -/
theorem split_of_weekday {form : Form} {fields : Fields} {text : List Char}
    (weekday : form.face = .weekday) (spells : form.Spells fields text) :
    ∃ middle front back, text = front ++ back ∧
      Layout.SpellAll weekdayElements .blank middle front ∧
        ∀ rest, ofWeekdayEnding (back ++ rest) = form := by
  rcases form with ⟨layout⟩ | _
  · cases layout with
    | internet | isoLocal | spaceLocal | slashLocal | accessLog => cases weekday
    | ctime =>
      rcases Layout.spellAll_split weekdayElements spells with
        ⟨middle, front, back, rfl, spellsFront, ending⟩
      exact ⟨middle, front, back, rfl, spellsFront, ofWeekdayEnding_year ending⟩
    | unixDate =>
      rcases Layout.spellAll_split weekdayElements spells with
        ⟨middle, front, back, rfl, spellsFront, ending⟩
      exact ⟨middle, front, back, rfl, spellsFront, ofWeekdayEnding_zoneName ending⟩
    | zonedCtime =>
      rcases Layout.spellAll_split [.weekday, .literal ' ', .monthName] spells with
        ⟨_, name, others, rfl, spellsName, spellsOthers⟩
      rcases Layout.spellAll_split [.looseDay, .literal ' ', .clock, .fraction, .literal ' ']
        (Layout.spellAll_looseDay spellsOthers) with ⟨middle, date, back, rfl, spellsDate, ending⟩
      exact ⟨middle, name ++ date, back, (List.append_assoc _ _ _).symm,
        Layout.spellAll_append spellsName spellsDate, ofWeekdayEnding_compactZone ending⟩
  · cases weekday

/-- Two texts with a weekday of which one goes on as the other have one form. -/
theorem eq_of_weekday {form other : Form} {fields fields' : Fields}
    {text text' rest rest' : List Char} (weekday : form.face = .weekday)
    (weekday' : other.face = .weekday) (spells : form.Spells fields text)
    (spells' : other.Spells fields' text') (same : text ++ rest = text' ++ rest') :
    form = other := by
  rcases split_of_weekday weekday spells with ⟨middle, front, back, rfl, spellsFront, tells⟩
  rcases split_of_weekday weekday' spells' with ⟨middle', front', back', rfl, spellsFront', tells'⟩
  rw [List.append_assoc, List.append_assoc] at same
  have closed : ∀ rest, Ends (Layout.lastProlongs weekdayElements) rest := fun _ _ _ => rfl
  rcases Layout.spellAll_unique rfl spellsFront spellsFront' (closed _) (closed _) same with
    ⟨-, -, sameEnding⟩
  rw [← tells rest, sameEnding, tells' rest']

/-- The internet form that goes on in a given way behind the local one. -/
def ofInternetEnding : List Char → Form
  | [] => .listed .isoLocal
  | 'Z' :: _ => .listed .internet
  | _ :: _ :: _ :: ':' :: _ => .listed .internet
  | _ :: _ :: _ :: _ :: _ => .compact
  | _ => .listed .isoLocal

/-- A text in an internet form has the local form in front, and its ending tells the
form. -/
theorem split_of_internet {form : Form} {fields : Fields} {text : List Char}
    (internet : form.face = .internet) (spells : form.Spells fields text) :
    ∃ middle front back, text = front ++ back ∧
      Layout.SpellAll Layout.isoLocal.elements .blank middle front ∧
        ∀ rest, Layout.atEnd rest = true →
          Ends Element.fraction.prolongs (back ++ rest) ∧ ofInternetEnding (back ++ rest) = form := by
  rcases form with ⟨layout⟩ | _
  · cases layout with
    | spaceLocal | slashLocal | accessLog | ctime | unixDate | zonedCtime => cases internet
    | isoLocal =>
      refine ⟨fields, text, [], (List.append_nil text).symm, spells, ?_⟩
      intro rest ended
      refine ⟨Layout.ends_of_atEnd (.listed .isoLocal) ended, ?_⟩
      rcases Layout.atEnd_iff.mp ended with rfl | rfl <;> rfl
    | internet =>
      rcases Layout.spellAll_split Layout.isoLocal.elements spells with
        ⟨middle, front, back, rfl, spellsFront, ending⟩
      rcases Layout.exists_of_spellAll_cons ending with ⟨_, zone, more, rfl, spellsZone, last⟩
      cases last
      refine ⟨middle, front, _, rfl, spellsFront, ?_⟩
      intro rest ended
      rw [List.append_nil]
      refine ⟨Element.ends_of_endsBefore rfl spellsZone rest, ?_⟩
      cases spellsZone with
      | universal => rfl
      | shifted ahead hour minute =>
        rcases List.length_eq_two.mp hour.1 with ⟨_, _, rfl⟩
        cases ahead <;> rfl
  · rcases Layout.spellAll_split Layout.isoLocal.elements spells with
      ⟨middle, front, back, rfl, spellsFront, ending⟩
    rcases Layout.exists_of_spellAll_cons ending with ⟨_, zone, more, rfl, spellsZone, last⟩
    cases last
    refine ⟨middle, front, _, rfl, spellsFront, ?_⟩
    intro rest ended
    rw [List.append_nil]
    refine ⟨Element.ends_of_endsBefore rfl spellsZone rest, ?_⟩
    cases spellsZone with
    | compact ahead hour minute =>
      rcases List.length_eq_two.mp hour.1 with ⟨_, _, rfl⟩
      rcases exists_cons_of_isRun minute with ⟨digit, more, rfl, isDigit, minute⟩
      rcases exists_cons_of_isRun minute with ⟨_, _, rfl, -, -⟩
      -- What tells the compact zone from the other one.
      have noColon : digit ≠ ':' := by
        rintro rfl
        exact absurd isDigit (by decide)
      cases ahead <;> simp [Zone.signOf, ofInternetEnding]

/-! ## Whole texts -/

/-- A text is that of a form, perhaps with a line feed behind it. -/
def Reads (form : Form) (fields : Fields) (text : List Char) : Prop :=
  ∃ written rest, form.Spells fields written ∧ Layout.atEnd rest = true ∧ text = written ++ rest

/-- A layout reads just what it spells, up to a line feed. -/
theorem reads_listed_iff {layout : Layout} {fields : Fields} {text : List Char} :
    (Form.listed layout).Reads fields text ↔ layout.fields? text = some fields := by
  rw [Layout.fields?]
  constructor
  · rintro ⟨written, rest, spells, ended, rfl⟩
    have read := Layout.readElements_of_spellAll (separated_elements (.listed layout)) spells
      (Layout.ends_of_atEnd (.listed layout) ended)
    rw [← elements, read]
    exact if_pos ended
  · intro read
    rcases Option.bind_eq_some_iff.mp read with ⟨⟨after, rest⟩, taken, kept⟩
    rcases Layout.spellAll_of_readElements taken with ⟨written, shape, spells⟩
    dsimp only at kept
    split at kept
    · rename_i ended
      cases kept
      exact ⟨written, rest, spells, ended, shape⟩
    · cases kept

/-- Forms whose texts begin alike are the same unless they have a weekday or the letter
of the internet form. -/
theorem eq_or_of_face {form other : Form} (same : form.face = other.face) :
    form = other ∨ form.face = .weekday ∨ form.face = .internet := by
  rcases form with ⟨layout⟩ | _ <;> rcases other with ⟨layout'⟩ | _
  · cases layout <;> cases layout' <;> simp [face] at same ⊢
  · cases layout <;> simp [face] at same ⊢
  · exact .inr (.inr rfl)
  · exact .inl rfl

/-- No text has two forms. -/
theorem reads_unique {form other : Form} {fields fields' : Fields} {text : List Char}
    (reads : form.Reads fields text) (reads' : other.Reads fields' text) :
    form = other ∧ fields = fields' := by
  rcases reads with ⟨written, rest, spells, ended, rfl⟩
  rcases reads' with ⟨written', rest', spells', ended', same⟩
  have sameFace : form.face = other.face := by
    rw [← face_of_spells spells rest, same, face_of_spells spells' rest']
  have sameForm : form = other := by
    rcases eq_or_of_face sameFace with rfl | known | known
    · rfl
    · exact eq_of_weekday known (sameFace ▸ known) spells spells' same
    · rcases split_of_internet known spells with ⟨middle, front, back, rfl, spellsFront, tells⟩
      rcases split_of_internet (sameFace ▸ known) spells' with
        ⟨middle', front', back', rfl, spellsFront', tells'⟩
      rcases tells rest ended with ⟨ends, tells⟩
      rcases tells' rest' ended' with ⟨ends', tells'⟩
      rw [List.append_assoc, List.append_assoc] at same
      rcases Layout.spellAll_unique rfl spellsFront spellsFront' ends ends' same with
        ⟨-, -, sameEnding⟩
      rw [← tells, sameEnding, tells']
  subst sameForm
  exact ⟨rfl, (Layout.spellAll_unique (separated_elements form) spells spells'
    (Layout.ends_of_atEnd form ended) (Layout.ends_of_atEnd form ended') same).1⟩

/-- A text whose form ends with a fixed width does not go on behind its end, whatever
stands there. -/
theorem spells_unique {form other : Form} {fields fields' : Fields}
    {text text' rest rest' : List Char} (closed : form.face = .weekday ∨ form.face = .access)
    (spells : form.Spells fields text) (spells' : other.Spells fields' text')
    (same : text ++ rest = text' ++ rest') : other = form ∧ fields' = fields ∧ text' = text := by
  have sameFace : form.face = other.face := by
    rw [← face_of_spells spells rest, same, face_of_spells spells' rest']
  have sameForm : form = other := by
    rcases eq_or_of_face sameFace with rfl | known | known
    · rfl
    · exact eq_of_weekday known (sameFace ▸ known) spells spells' same
    · rw [known] at closed
      rcases closed with wrong | wrong <;> cases wrong
  subst sameForm
  have closing : ∀ rest, Ends (Layout.lastProlongs form.elements) rest := by
    intro rest char _
    rcases form with ⟨layout⟩ | _
    · rcases closed with known | known <;> cases layout <;> first | rfl | cases known
    · rfl
  rcases Layout.spellAll_unique (separated_elements form) spells spells' (closing _) (closing _)
    same with ⟨sameFields, sameText, -⟩
  exact ⟨rfl, sameFields.symm, sameText.symm⟩

end Form
end Timestamp
end ContainerFleet
