import ContainerFleet.Proofs.Timestamp.Capture
import ContainerFleet.Proofs.Timestamp.Longest

/-!
# Extraction inverts writing

A timestamp that is written in one of the forms at the front of a line, perhaps between
brackets, is extracted as the moment that it denotes, whatever follows it.  The
ISO-like forms are cut out directly.  The others are found as the longest beginning
that denotes a moment: a beginning that spells anything spells what was written, and
goes on at most with blanks.
-/

namespace ContainerFleet
namespace Timestamp

open Digits

/-! ## Written forms as captures -/

namespace ZoneText

/-- A zone with a colon, or the letter of universal time. -/
def ofZone : Zone → ZoneText
  | .universal => .letter
  | .shifted ahead hours minutes => .signed true ahead hours minutes

/-- A zone without a colon. -/
def ofCompactZone : Zone → ZoneText
  | .universal => .signed false true 0 0
  | .shifted ahead hours minutes => .signed false ahead hours minutes

end ZoneText

namespace Form

/-- The form begins with the year; its fraction may have any number of digits. -/
def startsWithYear (form : Form) : Bool :=
  form.elements.head? == some .year

/-- How a zone is written in a form with the year in front. -/
def zoneText : Form → Zone → ZoneText
  | .listed .internet, zone => .ofZone zone
  | .compact, zone => .ofCompactZone zone
  | _, _ => .absent

/-- What is captured of fields that are written in a form with the year in front. -/
def capture (form : Form) (fields : Fields) : Capture :=
  let mark := if form.face = .slash then '/' else '-'
  let between := if form.face = .internet then 'T' else ' '
  ⟨mark, mark, between, '.', fields.date, fields.hour, fields.minute, fields.second,
    fields.fraction, form.zoneText fields.zone⟩

theorem write_eq_text {form : Form} (year : form.startsWithYear = true) (style : Style)
    (fields : Fields) : form.write style fields = (form.capture fields).text := by
  rw [write_eq]
  rcases form with ⟨layout⟩ | _
  · cases layout with
    | internet =>
      cases zone : fields.zone <;>
        simp [elements, Layout.elements, Layout.writeElements, Element.write, Element.clockText,
          Element.fractionText, Zone.write, Capture.text, Capture.localText, Capture.fractionText,
          capture, face, zoneText, zone, ZoneText.ofZone, ZoneText.write]
    | isoLocal | spaceLocal | slashLocal =>
      simp [elements, Layout.elements, Layout.writeElements, Element.write, Element.clockText,
        Element.fractionText, Capture.text, Capture.localText, Capture.fractionText, capture, face,
        zoneText, ZoneText.write]
    | accessLog | ctime | unixDate | zonedCtime => cases year
  · cases zone : fields.zone <;>
      simp [elements, Layout.elements, Layout.writeElements, Element.write, Element.clockText,
        Element.fractionText, Zone.writeCompact, Capture.text, Capture.localText,
        Capture.fractionText, capture, face, zoneText, zone, ZoneText.ofCompactZone,
        ZoneText.write]

theorem proper_zoneText {form : Form} {zone : Zone}
    (narrow : ∀ ahead hours minutes, zone = .shifted ahead hours minutes →
      hours < 100 ∧ minutes < 100) : (form.zoneText zone).Proper := by
  rw [zoneText.eq_def]
  split
  · cases zone with
    | universal => trivial
    | shifted ahead hours minutes => exact narrow ahead hours minutes rfl
  · cases zone with
    | universal => exact ⟨Nat.zero_lt_succ 99, Nat.zero_lt_succ 99⟩
    | shifted ahead hours minutes => exact narrow ahead hours minutes rfl
  · trivial

theorem proper_capture (form : Form) {fields : Fields} (writable : fields.Writable) :
    (form.capture fields).Proper := by
  have mark : isDateMark (if form.face = .slash then '/' else '-') = true := by
    cases form.face <;> rfl
  have between : (if form.face = .internet then 'T' else ' ') = 'T' ∨
      (if form.face = .internet then 'T' else ' ') = ' ' := by
    cases form.face <;> decide
  have month : fields.date.month < 100 := Nat.lt_of_le_of_lt writable.month.2 (by decide)
  exact ⟨mark, mark, between, .inl rfl, writable.year, month, writable.day, writable.hour,
    writable.minute, writable.second, writable.fraction, proper_zoneText writable.zone⟩

end Form

/-- A timestamp as it is written at the front of a line. -/
structure Rendering where
  form : Form
  style : Style
  fields : Fields
  /-- The brackets around it, if there are any. -/
  brackets : Option (Char × Char)

namespace Rendering

/-- The timestamp without brackets. -/
def core (rendering : Rendering) : List Char :=
  rendering.form.write rendering.style rendering.fields

def opening (rendering : Rendering) : List Char :=
  (rendering.brackets.map Prod.fst).toList

def closing (rendering : Rendering) : List Char :=
  (rendering.brackets.map Prod.snd).toList

def text (rendering : Rendering) : List Char :=
  rendering.opening ++ rendering.core ++ rendering.closing

/-- The fields exist and have their place in the form.  What existence does not bound
is the width of the minutes in a zone and, where the year is not in front, the number of
digits in the fraction. -/
structure Valid (rendering : Rendering) : Prop where
  fits : rendering.style.Fits
  exist : rendering.fields.Exist
  holds : rendering.form.Holds rendering.fields
  digits : AllDigits rendering.fields.fraction
  narrow : ∀ ahead hours minutes,
    rendering.fields.zone = .shifted ahead hours minutes → minutes < 100
  short : rendering.form.startsWithYear = false → rendering.fields.fraction.length ≤ 6
  brackets : ∀ pair ∈ rendering.brackets, pair ∈ openBrackets.zip closeBrackets

variable {rendering : Rendering}

namespace Valid

theorem writable (valid : rendering.Valid) : rendering.fields.Writable :=
  Fields.writable_of_exist valid.exist valid.digits valid.narrow

theorem spells (valid : rendering.Valid) :
    rendering.form.Spells (rendering.form.readBack rendering.fields) rendering.core :=
  Form.spells_write valid.fits valid.writable valid.holds

theorem brackets_cases (valid : rendering.Valid) :
    (rendering.opening = [] ∧ rendering.closing = []) ∨
      ∃ first ∈ openBrackets, ∃ last ∈ closeBrackets,
        rendering.opening = [first] ∧ rendering.closing = [last] := by
  have pairs := valid.brackets
  rw [opening, closing]
  cases known : rendering.brackets with
  | none => exact .inl ⟨rfl, rfl⟩
  | some pair =>
    have member := pairs pair known
    exact .inr ⟨pair.1, (List.of_mem_zip member).1, pair.2, (List.of_mem_zip member).2, rfl, rfl⟩

theorem opens (valid : rendering.Valid) : ∀ char ∈ rendering.opening, isBracket char = true := by
  rcases valid.brackets_cases with ⟨none_there, -⟩ | ⟨first, member, _, _, one, -⟩
  · rw [none_there]
    exact fun _ wrong => nomatch wrong
  · rw [one, List.forall_mem_singleton, isBracket, List.contains_iff_mem.mpr member, Bool.true_or]

theorem closes (valid : rendering.Valid) : ∀ char ∈ rendering.closing, isBracket char = true := by
  rcases valid.brackets_cases with ⟨-, none_there⟩ | ⟨_, _, last, member, -, one⟩
  · rw [none_there]
    exact fun _ wrong => nomatch wrong
  · rw [one, List.forall_mem_singleton, isBracket, List.contains_iff_mem.mpr member, Bool.or_true]

theorem denotes (valid : rendering.Valid) {instant : Instant}
    (denoted : (instant.micros : Int) = rendering.fields.universalMicros) :
    (rendering.form.readBack rendering.fields).instant = .ok (some instant) := by
  rw [Form.instant_readBack, Fields.instant, if_pos valid.exist, ← denoted,
    Instant.ofMicros?_micros]

end Valid

/-! ## The line without blanks at its ends -/

/-- What stands behind the timestamp once the line is trimmed. -/
def behind (message : List Char) : List Char :=
  (' ' :: message).rdropWhile Text.isBlank

theorem behind_cases (message : List Char) :
    behind message = [] ∨ ∃ more, behind message = ' ' :: more := by
  rcases List.prefix_cons_iff.mp (List.rdropWhile_prefix Text.isBlank (' ' :: message)) with
    nothing | ⟨more, shape, -⟩
  · exact .inl nothing
  · exact .inr ⟨more, shape⟩

theorem trim_behind (message : List Char) : Text.trim (behind message) = Text.trim message := by
  have blank : ∀ char ∈ [' '], Text.isBlank char = true := List.forall_mem_singleton.mpr rfl
  rw [behind, Text.trim, Text.stripBoth_rdropWhile]
  exact Text.stripBoth_append_left blank message

theorem visible_of_isSolid {char : Char} (solid : isSolid char = true) :
    Text.isBlank char = false := by
  rw [isSolid, Bool.and_eq_true, Bool.not_eq_true'] at solid
  exact solid.1

theorem trim_line (valid : rendering.Valid) (message : List Char) :
    Text.trim (rendering.text ++ ' ' :: message) = rendering.text ++ behind message := by
  rcases Form.startsSolid_of_spells valid.spells with ⟨first, more, starts, solid⟩
  rcases Form.endsSolid_of_spells valid.spells with ⟨front, last, ends, solidLast⟩
  rcases valid.brackets_cases with ⟨noOpening, noClosing⟩ |
    ⟨left, isOpening, right, isClosing, opening, closing⟩
  · rw [text, noOpening, noClosing, List.nil_append, List.append_nil]
    exact Text.stripBoth_append starts ends (visible_of_isSolid solid)
      (visible_of_isSolid solidLast) _
  · have leftVisible := isBlank_of_isBracket (valid.opens left (opening ▸ List.mem_singleton_self _))
    have rightVisible :=
      isBlank_of_isBracket (valid.closes right (closing ▸ List.mem_singleton_self _))
    rw [text, opening, closing]
    exact Text.stripBoth_append (List.append_assoc [left] rendering.core [right]) rfl leftVisible
      rightVisible _

/-- What stands behind the timestamp, its closing bracket included, begins with that
bracket or with a blank. -/
theorem ends_closing (valid : rendering.Valid) (extending : Char → Bool)
    (blank : extending ' ' = false)
    (brackets : closeBrackets.all (fun char => !extending char) = true)
    (message : List Char) : Ends extending (rendering.closing ++ behind message) := by
  rcases valid.brackets_cases with ⟨-, none_there⟩ | ⟨_, _, last, member, -, one⟩
  · rw [none_there, List.nil_append]
    rcases behind_cases message with nothing | ⟨more, shape⟩
    · rw [nothing]
      exact ends_nil _
    · rw [shape]
      exact ends_cons.mpr blank
  · rw [one]
    exact ends_cons.mpr ((Bool.not_eq_true' _).mp (List.all_eq_true.mp brackets last member))

/-- An opening bracket is dropped, and else nothing is. -/
theorem dropOne_text (valid : rendering.Valid) (rest : List Char) :
    dropOne openBrackets.contains (rendering.text ++ rest) =
      rendering.core ++ (rendering.closing ++ rest) := by
  rcases Form.startsSolid_of_spells valid.spells with ⟨first, more, starts, solid⟩
  rcases valid.brackets_cases with ⟨none_there, -⟩ | ⟨left, member, _, _, one, -⟩
  · have noBracket : openBrackets.contains first = false := by
      rw [isSolid, Bool.and_eq_true, Bool.not_eq_true', Bool.not_eq_true', isBracket,
        Bool.or_eq_false_iff] at solid
      exact solid.2.1
    rw [text, none_there, List.nil_append, List.append_assoc, starts, List.cons_append, dropOne,
      noBracket]
    rfl
  · rw [text, one, List.append_assoc, List.append_assoc, List.singleton_append, dropOne,
      if_pos (List.contains_iff_mem.mpr member)]

/-! ## Forms with the year in front -/

theorem isoFront?_text (valid : rendering.Valid) (year : rendering.form.startsWithYear = true)
    (message : List Char) :
    isoFront? (rendering.text ++ behind message) = some (rendering.core, behind message) := by
  have front := dropOne_text valid (behind message)
  have back : dropOne closeBrackets.contains (rendering.closing ++ behind message) =
      behind message := by
    rcases valid.brackets_cases with ⟨-, none_there⟩ | ⟨_, _, right, member, -, one⟩
    · rw [none_there, List.nil_append]
      rcases behind_cases message with nothing | ⟨more, shape⟩
      · rw [nothing]
        rfl
      · rw [shape]
        rfl
    · rw [one, List.singleton_append, dropOne, if_pos (List.contains_iff_mem.mpr member)]
  have proper := Form.proper_capture rendering.form valid.writable
  have complete := Capture.complete_of_ends proper
    (ends_closing valid prolongsFront rfl (by decide) message)
  have written : rendering.core = (rendering.form.capture rendering.fields).text :=
    Form.write_eq_text year _ _
  rw [isoFront?_eq_some_iff]
  exact ⟨_, _, proper, complete, written ▸ front, written, back.symm⟩

theorem extract_of_year (valid : rendering.Valid) (year : rendering.form.startsWithYear = true)
    {instant : Instant} (denoted : (instant.micros : Int) = rendering.fields.universalMicros)
    (message : List Char) (present : Text.trim (rendering.text ++ ' ' :: message) ≠ []) :
    extract (rendering.text ++ ' ' :: message) =
      .ok (some instant, remainder (behind message)) := by
  have spelled : spelled? ([] ++ rendering.core ++ []) =
      some (rendering.form.readBack rendering.fields) :=
    spelled?_of_spells (fun _ wrong => nomatch wrong) rfl valid.spells
      (Form.exist_readBack.mpr valid.exist)
  rw [List.nil_append, List.append_nil] at spelled
  rw [extract_of_trimmed present, trim_line valid, isoFront?_text valid year]
  dsimp only
  rw [ofCandidate_of_spelled spelled, valid.denotes denoted]

/-! ## Forms with the year behind -/

theorem face_of_not_year {form : Form} (year : form.startsWithYear = false) :
    form.face = .weekday ∨ form.face = .access := by
  revert year
  rcases form with ⟨layout⟩ | _
  · cases layout <;> decide
  · decide

theorem isoFront?_eq_none (valid : rendering.Valid)
    (year : rendering.form.startsWithYear = false) (message : List Char) :
    isoFront? (rendering.text ++ behind message) = none := by
  cases found : isoFront? (rendering.text ++ behind message) with
  | none => rfl
  | some parts =>
    rcases isoFront?_eq_some_iff.mp found with ⟨capture, after, proper, -, front, -, -⟩
    rw [dropOne_text valid, Capture.text, List.append_assoc] at front
    have face := Form.face_of_spells valid.spells (rendering.closing ++ behind message)
    rw [front, Layout.face_of_local [] (Capture.spells_localText proper)] at face
    rcases face_of_not_year year with wrong | wrong
    all_goals
      rw [wrong] at face
      split at face
      · cases face
      · split at face <;> cases face

/-- The most characters that an element has, with at most six digits in a fraction. -/
def width : Element → Nat
  | .literal _ => 1
  | .year | .looseDay => 4
  | .month | .day => 2
  | .monthName | .weekday => 3
  | .clock => 8
  | .fraction => 7
  | .zone => 6
  | .compactZone | .zoneName => 5

/-- The most characters that some elements have one after another. -/
def widths (elements : List Element) : Nat :=
  elements.foldr (fun element behind => width element + behind) 0

theorem length_signed {hours minutes : Nat} (hour : hours < 100) (minute : minutes < 100)
    (ahead : Bool) (between : List Char) :
    (Zone.signed ahead hours between minutes).length = 5 + between.length := by
  rw [Zone.signed, List.length_cons, List.length_append, List.length_append, (isRun_two hour).1,
    (isRun_two minute).1]
  omega

theorem length_write_le {style : Style} (fits : style.Fits) {fields : Fields}
    (writable : fields.Writable) (short : fields.fraction.length ≤ 6) (element : Element) :
    (element.write style fields).length ≤ width element := by
  have two : ∀ number < 100, (padded 2 number).length = 2 := fun _ small => (isRun_two small).1
  have month : fields.date.month < 100 := Nat.lt_of_le_of_lt writable.month.2 (by decide)
  have months : ∀ index, (monthNames.getD index []).length ≤ 3 := by
    intro index
    rw [List.getD_eq_getElem?_getD]
    cases found : monthNames[index]? with
    | none => exact Nat.zero_le 3
    | some name => exact Nat.le_of_eq (Element.monthNames_three name (List.mem_of_getElem? found))
  have weekdays : ∀ index : Fin 7, (weekdayNames.getD index []).length ≤ 3 := by decide
  cases element with
  | literal char => exact Nat.le_refl 1
  | year => exact Nat.le_of_eq (isRun_padded (by decide) writable.year).1
  | month => exact Nat.le_of_eq (two _ month)
  | monthName => exact months _
  | weekday => exact weekdays _
  | day => exact Nat.le_of_eq (two _ writable.day)
  | looseDay =>
    have blanks : (if style.twoBlanks then [' ', ' '] else [' ']).length ≤ 2 := by
      cases style.twoBlanks <;> decide
    have digits : (if style.shortDay then ofNat fields.date.day
        else padded 2 fields.date.day).length ≤ 2 := by
      cases style.shortDay
      · exact Nat.le_of_eq (two _ writable.day)
      · exact length_ofNat_le (by decide) writable.day
    rw [Element.write, Element.looseDayText, List.length_append]
    exact Nat.add_le_add blanks digits
  | clock =>
    rw [Element.write, Element.clockText]
    simp only [List.length_append, List.length_cons, two _ writable.hour, two _ writable.minute,
      two _ writable.second]
    decide
  | fraction =>
    rw [Element.write, Element.fractionText]
    split
    · exact Nat.zero_le 7
    · exact Nat.succ_le_succ short
  | zone =>
    rw [Element.write]
    cases zone : fields.zone with
    | universal => decide
    | shifted ahead hours minutes =>
      rcases writable.zone ahead hours minutes zone with ⟨hour, minute⟩
      exact Nat.le_of_eq (length_signed hour minute ahead [':'])
  | compactZone =>
    rw [Element.write]
    cases zone : fields.zone with
    | universal => decide
    | shifted ahead hours minutes =>
      rcases writable.zone ahead hours minutes zone with ⟨hour, minute⟩
      exact Nat.le_of_eq (length_signed hour minute ahead [])
  | zoneName => exact fits.2.1

theorem length_writeElements_le {style : Style} (fits : style.Fits) {fields : Fields}
    (writable : fields.Writable) (short : fields.fraction.length ≤ 6) (elements : List Element) :
    (Layout.writeElements elements style fields).length ≤ widths elements := by
  induction elements with
  | nil => exact Nat.le_refl 0
  | cons element later inductionHypothesis =>
    rw [Layout.writeElements_cons, List.length_append]
    exact Nat.add_le_add (length_write_le fits writable short element) inductionHypothesis

/-- Such a timestamp stands within the part of the line that is searched. -/
theorem length_text_le (valid : rendering.Valid)
    (year : rendering.form.startsWithYear = false) : rendering.text.length ≤ searchLength := by
  have elements : widths rendering.form.elements ≤ 38 := by
    have forms : ∀ form : Form, form.startsWithYear = false → widths form.elements ≤ 38 := by
      intro form
      rcases form with ⟨layout⟩ | _
      · cases layout <;> decide
      · decide
    exact forms _ year
  have written := length_writeElements_le valid.fits valid.writable (valid.short year)
    rendering.form.elements
  rw [← Form.write_eq, ← core] at written
  have brackets : rendering.opening.length ≤ 1 ∧ rendering.closing.length ≤ 1 := by
    rcases valid.brackets_cases with ⟨opening, closing⟩ | ⟨_, _, _, _, opening, closing⟩
    all_goals
      rw [opening, closing]
      exact ⟨by simp, by simp⟩
  rw [text, List.length_append, List.length_append, searchLength]
  omega

/-- What is stripped behind a closing bracket is blank. -/
theorem blank_of_stripped {closing more : List Char}
    (starts : more = [] ∨ ∃ others, more = ' ' :: others)
    (stripped : ((closing ++ more).rdropWhile Text.isBlank).rdropWhile isBracket = []) :
    ∀ char ∈ more, Text.isBlank char = true := by
  intro char member
  rw [← Bool.not_eq_false]
  intro visible
  rcases List.append_of_mem member with ⟨front, back, shape⟩
  rw [shape, ← List.append_assoc, Text.rdropWhile_append _ visible,
    List.rdropWhile_eq_nil_iff] at stripped
  rcases starts with rfl | ⟨others, rfl⟩
  · cases member
  · cases front with
    | nil =>
      cases shape
      exact absurd visible (by decide)
    | cons first front =>
      cases shape
      exact absurd (stripped ' ' (by simp)) (by decide)

theorem spelled?_text (valid : rendering.Valid) :
    spelled? rendering.text = some (rendering.form.readBack rendering.fields) := by
  have stripped : (rendering.closing.rdropWhile Text.isBlank).rdropWhile isBracket = [] :=
    List.rdropWhile_eq_nil_iff.mpr fun char member =>
      valid.closes char ((List.rdropWhile_prefix _ _).subset member)
  exact spelled?_of_spells valid.opens stripped valid.spells (Form.exist_readBack.mpr valid.exist)

/-- A beginning of the line that spells anything is the timestamp, its brackets apart,
and what is stripped. -/
theorem eq_of_spelled_take (valid : rendering.Valid)
    (year : rendering.form.startsWithYear = false) {message : List Char} {count : Nat}
    {others : Fields}
    (spelled : spelled? ((rendering.text ++ behind message).take count) = some others) :
    others = rendering.form.readBack rendering.fields ∧
      ∃ tail, (rendering.text ++ behind message).take count =
          rendering.opening ++ rendering.core ++ tail ∧
        (tail.rdropWhile Text.isBlank).rdropWhile isBracket = [] := by
  have noFeed := ends_closing valid (· == '\n') rfl (by decide) message
  have within := List.take_prefix count (rendering.text ++ behind message)
  nth_rewrite 2 [text] at within
  rw [List.append_assoc, List.append_assoc] at within
  exact eq_of_spelled_beginning (face_of_not_year year) valid.opens valid.spells noFeed within spelled

/-- Behind each beginning that spells the timestamp, brackets included, the message is
left. -/
theorem remainder_drop (valid : rendering.Valid) (year : rendering.form.startsWithYear = false)
    {message : List Char} {count : Nat} (long : rendering.text.length ≤ count)
    (spelled : (spelled? ((rendering.text ++ behind message).take count)).isSome = true) :
    remainder ((rendering.text ++ behind message).drop count) = remainder (behind message) := by
  rcases Option.isSome_iff_exists.mp spelled with ⟨others, spells⟩
  rcases (eq_of_spelled_take valid year spells).2 with ⟨tail, shape, stripped⟩
  rw [List.take_append, List.take_of_length_le long] at shape
  rw [List.drop_append, List.drop_of_length_le long, List.nil_append]
  generalize count - rendering.text.length = kept at shape ⊢
  rw [text, List.append_assoc _ rendering.closing, List.append_cancel_left_eq] at shape
  rw [← shape] at stripped
  have starts : (behind message).take kept = [] ∨
      ∃ others, (behind message).take kept = ' ' :: others := by
    rcases behind_cases message with nothing | ⟨more, shape⟩
    · rw [nothing, List.take_nil]
      exact .inl rfl
    · rw [shape]
      cases kept with
      | zero => exact .inl rfl
      | succ kept => exact .inr ⟨_, rfl⟩
  have same : Text.trim ((behind message).drop kept) = Text.trim (behind message) := by
    nth_rewrite 2 [← List.take_append_drop kept (behind message)]
    exact (Text.stripBoth_append_left (blank_of_stripped starts stripped) _).symm
  rw [remainder, remainder, same]

theorem extract_of_not_year (valid : rendering.Valid)
    (year : rendering.form.startsWithYear = false) {instant : Instant}
    (denoted : (instant.micros : Int) = rendering.fields.universalMicros)
    (message : List Char) (present : Text.trim (rendering.text ++ ' ' :: message) ≠ []) :
    extract (rendering.text ++ ' ' :: message) =
      .ok (some instant, remainder (behind message)) := by
  have positive : 0 < rendering.text.length := by
    rcases Form.startsSolid_of_spells valid.spells with ⟨first, more, starts, -⟩
    rw [text, starts, List.length_append, List.length_append, List.length_cons]
    omega
  have counted : rendering.text.length - 1 + 1 = rendering.text.length :=
    Nat.sub_add_cancel positive
  have within : rendering.text.length - 1 <
      min (rendering.text ++ behind message).length searchLength := by
    have most := length_text_le valid year
    rw [List.length_append]
    omega
  have spelled : (spelled? ((rendering.text ++ behind message).take
      (rendering.text.length - 1 + 1))).isSome = true := by
    rw [counted, List.take_left, spelled?_text valid]
    rfl
  have agree : ∀ index < min (rendering.text ++ behind message).length searchLength, ∀ fields,
      spelled? ((rendering.text ++ behind message).take (index + 1)) = some fields →
        fields.instant = .ok (some instant) := by
    intro index _ fields spells
    rw [(eq_of_spelled_take valid year spells).1]
    exact valid.denotes denoted
  rcases exists_longestPrefix within spelled agree with ⟨last, above, -, isSome, found⟩
  have long : rendering.text.length ≤ last + 1 := by omega
  rw [extract_of_trimmed present, trim_line valid, isoFront?_eq_none valid year]
  dsimp only
  rw [extractPrefix, found, remainder_drop valid year long isSome]
  rfl

/-- A timestamp in front of a message is extracted as the moment that it denotes, and
what is left is the message, trimmed and without closing brackets in front. -/
theorem extract_text {rendering : Rendering} (valid : rendering.Valid) {instant : Instant}
    (denoted : (instant.micros : Int) = rendering.fields.universalMicros) (message : List Char) :
    extract (rendering.text ++ ' ' :: message) =
      .ok (some instant,
        (Text.trim message).dropWhile [']', ')', '}', '>', ' ', '\t'].contains) := by
  have present : Text.trim (rendering.text ++ ' ' :: message) ≠ [] := by
    rcases Form.startsSolid_of_spells valid.spells with ⟨first, more, starts, -⟩
    rw [trim_line valid, text, starts]
    simp
  have left : remainder (behind message) =
      (Text.trim message).dropWhile [']', ')', '}', '>', ' ', '\t'].contains := by
    rw [remainder, trim_behind]
    rfl
  rw [← left]
  cases year : rendering.form.startsWithYear with
  | true => exact extract_of_year valid year denoted message present
  | false => exact extract_of_not_year valid year denoted message present

/-- The last half hour of a year, written behind universal time. -/
def lastEntry : Rendering where
  form := .listed .accessLog
  style := ⟨0, ['U', 'T', 'C'], false, false⟩
  fields := ⟨⟨2023, 12, 31⟩, 23, 30, 0, [], .shifted false 1 30⟩
  brackets := some ('[', ']')

example : String.ofList lastEntry.text = "[31/Dec/2023:23:30:00 -0130]" := by decide

theorem lastEntry_valid : lastEntry.Valid where
  fits := by decide
  exist := by decide
  holds := by decide
  digits := by decide
  narrow := by
    rintro _ _ _ ⟨⟩
    decide
  short := by decide
  brackets := by decide

/-- The entry belongs to the first hours of the next year. -/
theorem extract_lastEntry :
    ∃ instant : Instant, instant.date = ⟨2024, 1, 1⟩ ∧ instant.clock = ⟨1, 0, 0, 0⟩ ∧
      extract (lastEntry.text ++ ' ' :: ['\t', ')', 'u', 'p']) = .ok (some instant, ['u', 'p']) :=
  ⟨⟨738885 * dayMicros + 3600000000, by decide⟩, by decide, by decide,
    extract_text lastEntry_valid (by decide) _⟩

end Rendering
end Timestamp
end ContainerFleet
