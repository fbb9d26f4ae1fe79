import ContainerFleet.Proofs.Calendar.Date
import ContainerFleet.Proofs.Timestamp.Grammar

/-!
# Written timestamps are spelled

What is written in a form is one of the texts of the form, and says the fields of
which it was written.  Where a form has no sign for universal time, a shift of nothing
is written in its place; it denotes the same moments.
-/

namespace ContainerFleet
namespace Timestamp

open Digits

/-- The fields fit into the widths of the layouts. -/
structure Fields.Writable (fields : Fields) : Prop where
  year : fields.date.year < 10000
  month : 1 ≤ fields.date.month ∧ fields.date.month ≤ 12
  day : fields.date.day < 100
  hour : fields.hour < 100
  minute : fields.minute < 100
  second : fields.second < 100
  fraction : AllDigits fields.fraction
  zone : ∀ ahead hours minutes, fields.zone = .shifted ahead hours minutes →
    hours < 100 ∧ minutes < 100

/-- A zone as it is written where a shift has to be. -/
def Zone.spelled : Zone → Zone
  | .universal => .shifted true 0 0
  | zone => zone

/-- What reading an element written of `source` says. -/
def Element.put (element : Element) (source before : Fields) : Fields :=
  match element with
  | .literal _ | .weekday | .zoneName => before
  | .year => { before with date.year := source.date.year }
  | .month | .monthName => { before with date.month := source.date.month }
  | .day | .looseDay => { before with date.day := source.date.day }
  | .clock =>
    { before with hour := source.hour, minute := source.minute, second := source.second }
  | .fraction =>
    if source.fraction.isEmpty then before else { before with fraction := source.fraction }
  | .zone => { before with zone := source.zone }
  | .compactZone => { before with zone := source.zone.spelled }

theorem isRun_two {number : Nat} (small : number < 100) : IsRun 2 (padded 2 number) :=
  isRun_padded (by decide) small

theorem isRun_ofNat {number : Nat} (small : number < 100) :
    IsRun 1 (ofNat number) ∨ IsRun 2 (ofNat number) := by
  have most : (ofNat number).length ≤ 2 := length_ofNat_le (by decide) small
  have least : 0 < (ofNat number).length := Nat.length_toDigits_pos
  have all := allDigits_ofNat number
  rcases Nat.lt_or_ge (ofNat number).length 2 with one | two
  · exact .inl ⟨by omega, all⟩
  · exact .inr ⟨by omega, all⟩

namespace Element

theorem spells_looseDay (style : Style) {day : Nat} (small : day < 100) (before : Fields) :
    Element.looseDay.Spells before { before with date.day := day } (looseDayText style day) := by
  obtain ⟨blanks, digits, space, run, known, shape⟩ : ∃ blanks digits,
      (blanks = [' '] ∨ blanks = [' ', ' ']) ∧ (IsRun 1 digits ∨ IsRun 2 digits) ∧
        value digits = day ∧ looseDayText style day = blanks ++ digits := by
    refine ⟨_, _, ?_, ?_, ?_, rfl⟩
    · cases style.twoBlanks
      · exact .inl rfl
      · exact .inr rfl
    · cases style.shortDay
      · exact .inr (isRun_two small)
      · exact isRun_ofNat small
    · cases style.shortDay
      · exact value_padded 2 day
      · exact value_ofNat day
  rw [shape, ← known]
  exact .looseDay space run

theorem spells_year {year : Nat} (small : year < 10000) (before : Fields) :
    Element.year.Spells before { before with date.year := year } (padded 4 year) := by
  have spells : Element.year.Spells before _ _ := .year (isRun_padded (by decide) small)
  rwa [value_padded] at spells

theorem spells_month {month : Nat} (small : month < 100) (before : Fields) :
    Element.month.Spells before { before with date.month := month } (padded 2 month) := by
  have spells : Element.month.Spells before _ _ := .month (isRun_two small)
  rwa [value_padded] at spells

theorem spells_day {day : Nat} (small : day < 100) (before : Fields) :
    Element.day.Spells before { before with date.day := day } (padded 2 day) := by
  have spells : Element.day.Spells before _ _ := .day (isRun_two small)
  rwa [value_padded] at spells

theorem spells_clock {hour minute second : Nat} (hours : hour < 100) (minutes : minute < 100)
    (seconds : second < 100) (before : Fields) :
    Element.clock.Spells before { before with hour := hour, minute := minute, second := second }
      (padded 2 hour ++ ':' :: (padded 2 minute ++ ':' :: padded 2 second)) := by
  have spells : Element.clock.Spells before _ _ :=
    .clock (isRun_two hours) (isRun_two minutes) (isRun_two seconds)
  rwa [value_padded, value_padded, value_padded] at spells

theorem spells_shifted {ahead : Bool} {hours minutes : Nat} (hour : hours < 100)
    (minute : minutes < 100) (before : Fields) :
    Element.zone.Spells before { before with zone := .shifted ahead hours minutes }
      (Zone.signed ahead hours [':'] minutes) := by
  have spells : Element.zone.Spells before _ _ :=
    .shifted ahead (isRun_two hour) (isRun_two minute)
  rw [value_padded, value_padded] at spells
  rw [Zone.signed, List.append_assoc, List.singleton_append]
  exact spells

theorem spells_compact {ahead : Bool} {hours minutes : Nat} (hour : hours < 100)
    (minute : minutes < 100) (before : Fields) :
    Element.compactZone.Spells before { before with zone := .shifted ahead hours minutes }
      (Zone.signed ahead hours [] minutes) := by
  have spells : Element.compactZone.Spells before _ _ :=
    .compact ahead (isRun_two hour) (isRun_two minute)
  rw [value_padded, value_padded] at spells
  rw [Zone.signed, List.append_nil]
  exact spells

theorem spells_write {style : Style} (fits : style.Fits) {fields : Fields}
    (writable : fields.Writable) (element : Element) (before : Fields) :
    element.Spells before (element.put fields before) (element.write style fields) := by
  cases element with
  | literal char => exact .literal char
  | year => exact spells_year writable.year before
  | month => exact spells_month (Nat.lt_of_le_of_lt writable.month.2 (by decide)) before
  | monthName =>
    rcases writable.month with ⟨low, high⟩
    have within : fields.date.month - 1 < monthNames.length := by
      have twelve : monthNames.length = 12 := rfl
      omega
    have spells : Element.monthName.Spells before _ _ :=
      .monthName (List.getElem?_eq_getElem within)
    rw [Nat.sub_add_cancel low] at spells
    rw [write, List.getD_eq_getElem?_getD, List.getElem?_eq_getElem within, Option.getD_some]
    exact spells
  | weekday =>
    have within : style.weekday.val < weekdayNames.length := style.weekday.isLt
    rw [write, List.getD_eq_getElem?_getD, List.getElem?_eq_getElem within, Option.getD_some]
    exact .weekday (List.getElem_mem within)
  | day => exact spells_day writable.day before
  | looseDay => exact spells_looseDay style writable.day before
  | clock =>
    rw [put, write, clockText, List.append_assoc, List.cons_append]
    exact spells_clock writable.hour writable.minute writable.second before
  | fraction =>
    rw [put, write, fractionText]
    cases digits : fields.fraction with
    | nil => exact .whole
    | cons digit more =>
      exact .fraction (List.cons_ne_nil _ _) (digits ▸ writable.fraction)
  | zone =>
    rw [put, write]
    cases zone : fields.zone with
    | universal => exact .universal
    | shifted ahead hours minutes =>
      rcases writable.zone ahead hours minutes zone with ⟨hour, minute⟩
      exact spells_shifted hour minute before
  | compactZone =>
    rw [put, write]
    cases zone : fields.zone with
    | universal => exact spells_compact (by decide) (by decide) before
    | shifted ahead hours minutes =>
      rcases writable.zone ahead hours minutes zone with ⟨hour, minute⟩
      exact spells_compact hour minute before
  | zoneName =>
    rcases fits with ⟨low, high, capitals⟩
    exact .zoneName low high (List.all_eq_true.mp capitals)

end Element

namespace Layout

theorem spellAll_write {style : Style} (fits : style.Fits) {fields : Fields}
    (writable : fields.Writable) (elements : List Element) (before : Fields) :
    SpellAll elements before
      (elements.foldl (fun before element => element.put fields before) before)
      (writeElements elements style fields) := by
  induction elements generalizing before with
  | nil => exact .nil before
  | cons element later inductionHypothesis =>
    rw [writeElements_cons, List.foldl_cons]
    exact .cons (Element.spells_write fits writable element before) (inductionHypothesis _)

end Layout

namespace Form

/-- Write fields in a form. -/
def write (form : Form) (style : Style) (fields : Fields) : List Char :=
  match form with
  | .listed layout => layout.write style fields
  | .compact => Layout.isoLocal.write style fields ++ fields.zone.writeCompact

theorem write_eq (form : Form) (style : Style) (fields : Fields) :
    form.write style fields = Layout.writeElements form.elements style fields := by
  cases form with
  | listed layout => rfl
  | compact =>
    have zone : Layout.writeElements [.compactZone] style fields = fields.zone.writeCompact :=
      List.append_nil _
    rw [write, elements, Layout.writeElements, List.flatMap_append, ← Layout.writeElements,
      ← Layout.writeElements, zone]
    rfl

/-- The form has a place for all that the fields say. -/
def Holds : Form → Fields → Prop
  | .listed layout, fields => layout.Holds fields
  | .compact, _ => True

instance (form : Form) (fields : Fields) : Decidable (form.Holds fields) :=
  match form with
  | .listed layout => inferInstanceAs (Decidable (layout.Holds fields))
  | .compact => inferInstanceAs (Decidable True)

/-- The fields as they are read back from a form. -/
def readBack (form : Form) (fields : Fields) : Fields :=
  if form.elements.contains .compactZone then { fields with zone := fields.zone.spelled }
  else fields

theorem put_elements {form : Form} {fields : Fields} (holds : form.Holds fields) :
    form.elements.foldl (fun before element => element.put fields before) .blank =
      form.readBack fields := by
  rcases fields with ⟨⟨year, month, day⟩, hour, minute, second, fraction, zone⟩
  rcases form with ⟨layout⟩ | _
  · rcases holds with ⟨shiftless, fractionless⟩
    have noZone : layout.hasShift = false → zone = .universal := shiftless
    have noFraction : layout.hasFraction = false → fraction = [] := fractionless
    cases layout
    case accessLog =>
      rw [noFraction rfl]
      rfl
    case internet | zonedCtime => cases fraction <;> rfl
    case isoLocal | spaceLocal | slashLocal | ctime | unixDate =>
      rw [noZone rfl]
      cases fraction <;> rfl
  · cases fraction <;> rfl

/-- What is written in a form is spelled by it. -/
theorem spells_write {form : Form} {style : Style} {fields : Fields} (fits : style.Fits)
    (writable : fields.Writable) (holds : form.Holds fields) :
    form.Spells (form.readBack fields) (form.write style fields) := by
  rw [← put_elements holds, write_eq]
  exact Layout.spellAll_write fits writable form.elements .blank

end Form

/-! ## The same moments -/

/-- Fields that exist fit into the layouts, but for what existence does not bound. -/
theorem Fields.writable_of_exist {fields : Fields} (exist : fields.Exist)
    (digits : AllDigits fields.fraction)
    (narrow : ∀ ahead hours minutes, fields.zone = .shifted ahead hours minutes → minutes < 100) :
    fields.Writable := by
  rcases exist with ⟨date, ⟨hour, minute, second, -⟩, zone⟩
  have month := Date.month_of_exists date
  have length := Date.monthLength_le fields.date.year fields.date.month
  rcases date with ⟨-, year, -, day⟩
  simp only [clock] at hour minute second
  refine ⟨by omega, month, by omega, by omega, by omega, by omega, digits, ?_⟩
  intro ahead hours minutes shifted
  have size : hours * 60 + minutes < 24 * 60 := by
    rw [shifted] at zone
    exact zone
  exact ⟨by omega, narrow ahead hours minutes shifted⟩

namespace Zone

theorem shift_spelled (zone : Zone) : zone.spelled.shift = zone.shift := by
  cases zone <;> rfl

theorem size_spelled (zone : Zone) : zone.spelled.size = zone.size := by
  cases zone <;> rfl

end Zone

namespace Form

theorem exist_readBack {form : Form} {fields : Fields} :
    (form.readBack fields).Exist ↔ fields.Exist := by
  rw [readBack]
  split
  · rw [Fields.Exist, Fields.Exist, Zone.Exists, Zone.Exists, Zone.size_spelled]
    exact Iff.rfl
  · exact Iff.rfl

/-- What is read back denotes the same moment. -/
theorem instant_readBack (form : Form) (fields : Fields) :
    (form.readBack fields).instant = fields.instant := by
  have micros : (form.readBack fields).universalMicros = fields.universalMicros := by
    rw [readBack]
    split
    · rw [Fields.universalMicros, Fields.universalMicros, Zone.shift_spelled]
      rfl
    · rfl
  rw [Fields.instant, Fields.instant, micros]
  by_cases exist : fields.Exist
  · rw [if_pos exist, if_pos (exist_readBack.mpr exist)]
  · rw [if_neg exist, if_neg fun real => exist (exist_readBack.mp real)]

end Form
end Timestamp
end ContainerFleet
