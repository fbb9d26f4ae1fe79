import ContainerFleet.Proofs.Timestamp.Beginning

/-!
# Captured zones that are heeded

What is captured as a zone is not always read as one.  Behind a date with slashes, a
blank or a fraction with a comma no form has a zone, and a zone of a day or more does not
exist.  The front as a whole is then no timestamp: the search among the beginnings of the
line takes the date and the clock alone, as universal time, and the zone is left to the
message.  In all other cases the moment is the one that the whole front denotes.
-/

namespace ContainerFleet
namespace Timestamp

open Digits

/-- Six digits of a fraction are less than a second. -/
theorem Fields.micros_lt {fields : Fields} (digits : AllDigits fields.fraction) :
    fields.micros < 1000000 := by
  have run : IsRun 6 (fields.fraction.take 6 ++
      List.replicate (6 - (fields.fraction.take 6).length) '0') := by
    refine ⟨?_, allDigits_append.mpr ⟨fun char member => digits char (List.mem_of_mem_take member),
      allDigits_zeros _⟩⟩
    rw [List.length_append, List.length_replicate]
    have most := List.length_take_le 6 fields.fraction
    omega
  exact value_lt run

theorem Fields.micros_of_instant {fields : Fields} {instant : Instant}
    (denoted : fields.instant = .ok (some instant)) :
    (instant.micros : Int) = fields.universalMicros := by
  rw [Fields.instant] at denoted
  split at denoted
  · split at denoted
    · rename_i found
      cases denoted
      rw [Instant.ofMicros?] at found
      split at found
      · rename_i bounds
        cases found
        exact Int.toNat_of_nonneg bounds.1
      · cases found
    · cases denoted
  · cases denoted

/-- Fields without a zone do not leave the calendar. -/
theorem Fields.not_overshoots_of_universal {fields : Fields} (exist : fields.Exist)
    (universal : fields.zone = .universal) : ¬ fields.Overshoots := by
  have time := Clock.sinceMidnight_lt exist.2.1
  rw [Fields.Overshoots, universal, Zone.shift]
  rintro (⟨-, wrong⟩ | ⟨-, wrong⟩) <;> omega

/-- What a form says behind the clock leaves the date and the clock as they are. -/
theorem Form.fields_of_spells {form : Form} {before after : Fields} {written : List Char}
    (spells : Layout.SpellAll (.fraction :: form.zoneElements) before after written) :
    ∃ fraction zone, after = { before with fraction := fraction, zone := zone } := by
  rcases Layout.exists_of_spellAll_cons spells with ⟨middle, _, _, rfl, first, others⟩
  obtain ⟨fraction, rfl⟩ : ∃ fraction, middle = { before with fraction := fraction } := by
    cases first with
    | whole => exact ⟨before.fraction, rfl⟩
    | fraction => exact ⟨_, rfl⟩
  refine ⟨fraction, after.zone, ?_⟩
  rcases form with ⟨layout⟩ | _
  · cases layout with
    | isoLocal | spaceLocal | slashLocal | accessLog | ctime | unixDate | zonedCtime =>
      cases others
      rfl
    | internet =>
      rcases Layout.exists_of_spellAll_cons others with ⟨_, _, _, rfl, zone, last⟩
      cases last
      cases zone <;> rfl
  · rcases Layout.exists_of_spellAll_cons others with ⟨_, _, _, rfl, zone, last⟩
    cases last
    cases zone
    rfl

namespace Capture

variable {capture : Capture}

/-- The moment depends on the whole of what is captured: there is no zone, or it exists
and stands where the internet forms have one. -/
def Heeded (capture : Capture) : Prop :=
  capture.zone = .absent ∨
    ((capture.mark₁, capture.mark₂, capture.between) = ('-', '-', 'T') ∧
      (capture.fraction = [] ∨ capture.point = '.') ∧ capture.zone.zone.Exists)

/-- The date and the clock exist, and their marks are those of a form. -/
structure Dated (capture : Capture) : Prop where
  marks : ∃ form : Form, form.marks = some (capture.mark₁, capture.mark₂, capture.between)
  date : capture.date.Exists
  hour : capture.hour < 24
  minute : capture.minute < 60
  second : capture.second < 60

theorem startsSolid_localText (proper : capture.Proper) : StartsSolid capture.localText := by
  have run : IsRun 4 (padded 4 capture.date.year) := isRun_padded (by decide) proper.year
  rcases exists_cons_of_isRun run with ⟨digit, more, shape, isDigit, -⟩
  rw [localText, shape]
  exact ⟨digit, _, rfl, isSolid_of_isDigit isDigit⟩

theorem endsSolid_localText (proper : capture.Proper) : EndsSolid capture.localText := by
  have ends := endsSolid_of_isRun (isRun_two proper.second)
  have clock := ((((ends.append [':']).append (padded 2 capture.minute)).append [':']).append
    (padded 2 capture.hour)).append [capture.between]
  have day := (clock.append (padded 2 capture.date.day)).append [capture.mark₂]
  exact ((day.append (padded 2 capture.date.month)).append [capture.mark₁]).append
    (padded 4 capture.date.year)

theorem endsSolid_text (proper : capture.Proper) : EndsSolid capture.text := by
  have fraction : EndsSolid (capture.localText ++ capture.fractionText) := by
    by_cases whole : capture.fraction = []
    · rw [fractionText, whole]
      exact (List.append_nil _).symm ▸ endsSolid_localText proper
    · rw [fractionText_of_ne whole]
      exact ((endsSolid_of_allDigits whole proper.fraction).append [capture.point]).append _
  rw [text, ← List.append_assoc]
  cases zone : capture.zone with
  | absent => exact (List.append_nil _).symm ▸ fraction
  | letter => exact EndsSolid.append ⟨[], 'Z', rfl, by decide⟩ _
  | signed colon ahead hours minutes =>
    have properZone := proper.zone
    rw [zone] at properZone
    have ends := endsSolid_of_isRun (isRun_two properZone.2)
    exact ((ends.append _).append [Zone.signOf ahead]).append _

/-- What some beginning of the front spells has the captured date and clock. -/
theorem dated_of_spelled {opening rest beginning : List Char} {fields : Fields}
    (proper : capture.Proper) (opens : ∀ char ∈ opening, isBracket char = true)
    (within : beginning <+: opening ++ (capture.text ++ rest))
    (spelled : spelled? beginning = some fields) : capture.Dated := by
  have starts := (startsSolid_localText proper).append
    (capture.fractionText ++ capture.zone.write)
  rcases split_of_spelled opens (starts.append rest) within spelled with
    ⟨body, rfl, inLine, shorter⟩
  rcases spelled?_eq_some_iff.mp spelled with ⟨exist, form, reads⟩
  have bare := shorter.trans inLine
  rw [List.append_assoc] at bare
  rcases split_of_reads proper bare reads with ⟨marks, back, written, ending, -, spells, -, -⟩
  rcases Form.fields_of_spells spells with ⟨fraction, zone, rfl⟩
  rcases exist with ⟨date, ⟨hour, minute, second, -⟩, -⟩
  exact ⟨⟨form, marks⟩, date, hour, minute, second⟩

theorem exist_of_dated (dated : capture.Dated) (digits : AllDigits capture.fraction)
    (zone : capture.zone.zone.Exists) : capture.fields.Exist :=
  ⟨dated.date, ⟨dated.hour, dated.minute, dated.second, Fields.micros_lt digits⟩, zone⟩

/-- Marks of a form are those of a form without a zone. -/
theorem exists_fits_of_absent (dated : capture.Dated) (absent : capture.zone = .absent) :
    ∃ form, capture.Fits form := by
  rcases dated.marks with ⟨form, marks⟩
  have noElements : [] = capture.zone.elements := by rw [absent]; rfl
  rcases form with ⟨layout⟩ | _
  · cases layout with
    | internet => exact ⟨.listed .isoLocal, marks, noElements⟩
    | isoLocal => exact ⟨.listed .isoLocal, marks, noElements⟩
    | spaceLocal => exact ⟨.listed .spaceLocal, marks, noElements⟩
    | slashLocal => exact ⟨.listed .slashLocal, marks, noElements⟩
    | accessLog | ctime | unixDate | zonedCtime => cases marks
  · exact ⟨.listed .isoLocal, marks, noElements⟩

/-- The mark of the fraction becomes a point, unless it is a comma with a zone behind the
digits. -/
theorem pointFraction_text (proper : capture.Proper)
    (pointed : capture.zone = .absent ∨ capture.fraction = [] ∨ capture.point = '.') :
    pointFraction capture.text = { capture with point := '.' }.text := by
  have noComma : ',' ∉ capture.zone.write := by
    have both := noMark_of_zone capture.zone (rfl : Layout.atEnd [] = true)
    rw [List.append_nil] at both
    exact both.2
  have behind : pointFraction (capture.fractionText ++ capture.zone.write) =
      { capture with point := '.' }.fractionText ++ capture.zone.write := by
    by_cases whole : capture.fraction = []
    · rw [fractionText, fractionText, whole]
      exact pointFraction_of_noComma noComma
    · have present : { capture with point := '.' }.fraction ≠ [] := whole
      rw [fractionText_of_ne whole, fractionText_of_ne present]
      have digits := noComma_of_allDigits proper.fraction
      rcases proper.point with point | point
      · rw [point]
        exact pointFraction_of_noComma (by simp [digits, noComma])
      · have absent : capture.zone = .absent := by
          rcases pointed with absent | wrong | wrong
          · exact absent
          · exact absurd wrong whole
          · rw [point] at wrong
            cases wrong
        rw [point, absent, ZoneText.write, List.append_nil, List.append_nil, pointFraction_comma,
          if_pos ⟨whole, proper.fraction⟩]
  rw [text, pointFraction_append (noComma_localText proper), behind]
  rfl

/-- A capture that fits a form is read with its comma as a point. -/
theorem spelled?_text {form : Form} {opening rest : List Char} (proper : capture.Proper)
    (opens : ∀ char ∈ opening, isBracket char = true)
    (closes : (rest.rdropWhile Text.isBlank).rdropWhile isBracket = [])
    (fits : capture.Fits form)
    (pointed : capture.zone = .absent ∨ capture.fraction = [] ∨ capture.point = '.')
    (exist : capture.fields.Exist) :
    spelled? (opening ++ capture.text ++ rest) = some capture.fields := by
  have properPoint : Proper { capture with point := '.' } :=
    ⟨proper.mark₁, proper.mark₂, proper.between, .inl rfl, proper.year, proper.month, proper.day,
      proper.hour, proper.minute, proper.second, proper.fraction, proper.zone⟩
  have spells := spells_text properPoint fits (.inr rfl)
  have starts : StartsSolid capture.text := (startsSolid_localText proper).append _
  rw [spelled?_eq_some_iff, undecorated_of_solid opens starts (endsSolid_text proper), closes,
    List.append_nil, pointFraction_text proper pointed]
  exact ⟨exist, form, _, [], spells, rfl, (List.append_nil _).symm⟩

/-- A heeded front of which any beginning spells something spells what is captured. -/
theorem spelled?_of_heeded (proper : capture.Proper) (heeded : capture.Heeded)
    (dated : capture.Dated) : spelled? capture.text = some capture.fields := by
  obtain ⟨form, fits, pointed, zone⟩ : ∃ form, capture.Fits form ∧
      (capture.zone = .absent ∨ capture.fraction = [] ∨ capture.point = '.') ∧
        capture.zone.zone.Exists := by
    by_cases absent : capture.zone = .absent
    · rcases exists_fits_of_absent dated absent with ⟨form, fits⟩
      refine ⟨form, fits, .inl absent, ?_⟩
      rw [absent]
      decide
    · rcases heeded with wrong | ⟨marks, pointed, zone⟩
      · exact absurd wrong absent
      · rcases exists_fits_of_internet absent marks with ⟨form, fits⟩
        exact ⟨form, fits, .inr pointed, zone⟩
  have closes : (([] : List Char).rdropWhile Text.isBlank).rdropWhile isBracket = [] := rfl
  have spelled := spelled?_text proper (List.forall_mem_nil _) closes fits pointed
    (exist_of_dated dated proper.fraction zone)
  rwa [List.nil_append, List.append_nil] at spelled

/-! ## Heeded fronts -/

theorem trim_ne_nil {line opening rest : List Char} (proper : capture.Proper)
    (trimmed : Text.trim line = opening ++ (capture.text ++ rest)) : Text.trim line ≠ [] := by
  rcases startsSolid_localText proper with ⟨first, more, shape, -⟩
  rw [trimmed, text, shape]
  simp

/-- A heeded front is taken as a whole. -/
theorem extract_of_heeded {line opening rest after message : List Char} {instant : Instant}
    (proper : capture.Proper) (heeded : capture.Heeded)
    (opens : ∀ char ∈ opening, isBracket char = true)
    (trimmed : Text.trim line = opening ++ (capture.text ++ rest))
    (front : isoFront? (Text.trim line) = some (capture.text, after))
    (extracted : extract line = .ok (some instant, message)) :
    (instant.micros : Int) = capture.fields.universalMicros ∧ message = remainder after := by
  rw [extract_of_trimmed (trim_ne_nil proper trimmed), front] at extracted
  dsimp only at extracted
  have dated : capture.Dated := by
    cases spelled : spelled? capture.text with
    | some fields =>
      have within : capture.text <+: [] ++ (capture.text ++ []) := List.prefix_append _ _
      exact dated_of_spelled proper (List.forall_mem_nil _) within spelled
    | none =>
      rw [ofCandidate_of_unspelled spelled] at extracted
      rcases exists_spelled_of_extractPrefix extracted with ⟨count, fields, spelled⟩
      have within := List.take_prefix count (Text.trim line)
      rw [trimmed] at within spelled
      exact dated_of_spelled proper opens within spelled
  have spelled := spelled?_of_heeded proper heeded dated
  rw [ofCandidate_of_spelled spelled] at extracted
  rcases Fields.instant_of_exist (exist_of_spelled? spelled) with ⟨failing, denoting⟩
  by_cases outside : capture.fields.Overshoots
  · rw [failing outside] at extracted
    cases extracted
  · rcases denoting outside with ⟨moment, denoted⟩
    rw [denoted] at extracted
    cases extracted
    exact ⟨Fields.micros_of_instant denoted, rfl⟩

/-! ## Fronts that are not heeded -/

theorem zoned_of_unheeded (unheeded : ¬ capture.Heeded) : capture.zone ≠ .absent :=
  fun absent => unheeded (.inl absent)

/-- What a beginning of such a front spells is cut before the zone. -/
theorem shortened_of_spelled {opening rest beginning : List Char} {fields : Fields}
    (proper : capture.Proper) (complete : capture.Complete rest) (unheeded : ¬ capture.Heeded)
    (opens : ∀ char ∈ opening, isBracket char = true)
    (within : beginning <+: opening ++ (capture.text ++ rest))
    (spelled : spelled? beginning = some fields) :
    ∃ digits, digits <+: capture.fraction ∧
      undecorated beginning = (capture.shortened digits).text ∧
        fields = (capture.shortened digits).fields := by
  have starts := (startsSolid_localText proper).append
    (capture.fractionText ++ capture.zone.write)
  rcases split_of_spelled opens (starts.append rest) within spelled with
    ⟨body, rfl, inLine, shorter⟩
  rcases spelled?_eq_some_iff.mp spelled with ⟨exist, form, reads⟩
  have bare := shorter.trans inLine
  rcases cases_of_reads proper complete bare reads with
    ⟨digits, ending, isPart, ended, shape, rfl⟩ | ⟨marks, pointed, rfl⟩
  · rw [shape] at bare
    have nothing := ending_of_zoned proper (zoned_of_unheeded unheeded) isPart ended bare
    rw [nothing, List.append_nil] at shape
    exact ⟨digits, isPart, shape, rfl⟩
  · exact absurd (.inr ⟨marks, pointed, exist.2.2⟩) unheeded

theorem prefix_of_shortened {digits : List Char} (shorter : digits <+: capture.fraction) :
    (capture.shortened digits).text <+: capture.localText ++ capture.fractionText := by
  rw [shortened_text, List.prefix_append_right_inj]
  cases digits with
  | nil => exact List.nil_prefix
  | cons digit more =>
    have present : capture.fraction ≠ [] := fun wrong => by
      rw [wrong] at shorter
      cases List.prefix_nil.mp shorter
    rw [fractionText_of_ne present]
    exact List.cons_prefix_cons.mpr ⟨rfl, shorter⟩

theorem proper_shortened {digits : List Char} (proper : capture.Proper)
    (all : AllDigits digits) : (capture.shortened digits).Proper :=
  ⟨proper.mark₁, proper.mark₂, proper.between, proper.point, proper.year, proper.month,
    proper.day, proper.hour, proper.minute, proper.second, all, trivial⟩

theorem isSolid_of_sign {char : Char} (sign : char = 'Z' ∨ char = '+' ∨ char = '-') :
    isSolid char = true := by
  rcases sign with rfl | rfl | rfl <;> decide

/-- No beginning that goes on with the zone spells anything. -/
theorem spelled?_of_zoned {opening rest more : List Char} (proper : capture.Proper)
    (complete : capture.Complete rest) (unheeded : ¬ capture.Heeded)
    (opens : ∀ char ∈ opening, isBracket char = true) (char : Char) (solid : isSolid char = true)
    (within : opening ++ (capture.localText ++ capture.fractionText ++ [char]) ++ more <+:
      opening ++ (capture.text ++ rest)) :
    spelled? (opening ++ (capture.localText ++ capture.fractionText ++ [char]) ++ more) =
      none := by
  rw [Option.eq_none_iff_forall_ne_some]
  intro fields spelled
  rcases shortened_of_spelled proper complete unheeded opens within spelled with
    ⟨digits, shorter, bare, -⟩
  have starts : StartsSolid (capture.localText ++ capture.fractionText ++ [char]) :=
    ((startsSolid_localText proper).append _).append _
  have ends : EndsSolid (capture.localText ++ capture.fractionText ++ [char]) :=
    ⟨_, char, rfl, solid⟩
  rw [undecorated_of_solid opens starts ends] at bare
  have small := (prefix_of_shortened shorter).length_le
  rw [← bare] at small
  simp only [List.length_append, List.length_singleton] at small
  omega

theorem text_of_head {char : Char} {behind rest : List Char}
    (head : capture.zone.write ++ rest = char :: behind) :
    capture.text ++ rest = capture.localText ++ capture.fractionText ++ [char] ++ behind := by
  simp [text, head]

theorem spelled?_of_unheeded {rest : List Char} (proper : capture.Proper)
    (complete : capture.Complete rest) (unheeded : ¬ capture.Heeded) :
    spelled? capture.text = none := by
  rcases ZoneText.exists_head (zoned_of_unheeded unheeded) [] with ⟨char, behind, head, sign⟩
  have shape := text_of_head head
  rw [List.append_nil] at shape
  rw [shape]
  refine spelled?_of_zoned proper complete unheeded (List.forall_mem_nil _) char
    (isSolid_of_sign sign) ?_
  rw [List.nil_append, ← shape]
  exact List.prefix_append _ _

theorem length_localText (proper : capture.Proper) : capture.localText.length = 19 := by
  have year : (padded 4 capture.date.year).length = 4 := (isRun_padded (by decide) proper.year).1
  simp [localText, year, (isRun_two proper.month).1, (isRun_two proper.day).1,
    (isRun_two proper.hour).1, (isRun_two proper.minute).1, (isRun_two proper.second).1]

/-- The digits of a fraction that the search comes to.  There are at least the six that
count. -/
theorem exists_cut (proper : capture.Proper) {opening : List Char} (one : opening.length ≤ 1) :
    ∃ digits more, capture.fraction = digits ++ more ∧
      digits.take 6 = capture.fraction.take 6 ∧
      (opening ++ (capture.shortened digits).text).length ≤ searchLength ∧
      (more = [] ∨ (opening ++ (capture.shortened digits).text).length = searchLength) := by
  have length {digits : List Char} (present : digits ≠ []) :
      (opening ++ (capture.shortened digits).text).length =
        opening.length + 19 + (digits.length + 1) := by
    have behind : (capture.shortened digits).fractionText = capture.point :: digits :=
      fractionText_of_ne present
    rw [shortened_text, behind, List.length_append, List.length_append, length_localText proper,
      List.length_cons, Nat.add_assoc]
  have search : searchLength = 40 := rfl
  by_cases fits : (opening ++ (capture.shortened capture.fraction).text).length ≤ searchLength
  · exact ⟨capture.fraction, [], (List.append_nil _).symm, rfl, fits, .inl rfl⟩
  · have present : capture.fraction ≠ [] := by
      intro nothing
      have short : (capture.shortened []).fractionText.length = 0 := rfl
      rw [nothing, shortened_text, List.length_append, List.length_append,
        length_localText proper, short] at fits
      omega
    rw [length present] at fits
    have counted := List.length_take_of_le
      (by omega : 20 - opening.length ≤ capture.fraction.length)
    have cut : capture.fraction.take (20 - opening.length) ≠ [] := by
      rw [← List.length_pos_iff, counted]
      omega
    refine ⟨_, _, (List.take_append_drop (20 - opening.length) _).symm, ?_, ?_, .inr ?_⟩
    · rw [List.take_take, Nat.min_eq_left (by omega)]
    all_goals
      rw [length cut, counted]
      omega

/-- The beginning that ends within the fraction, or behind it, is read as universal time. -/
theorem spelled?_shortened {opening digits : List Char} (proper : capture.Proper)
    (dated : capture.Dated) (opens : ∀ char ∈ opening, isBracket char = true)
    (shorter : digits <+: capture.fraction) :
    spelled? (opening ++ (capture.shortened digits).text) =
        some (capture.shortened digits).fields ∧
      ∃ instant, (capture.shortened digits).fields.instant = .ok (some instant) := by
  have all : AllDigits digits := fun char member => proper.fraction char (shorter.subset member)
  have again : (capture.shortened digits).Dated :=
    ⟨dated.marks, dated.date, dated.hour, dated.minute, dated.second⟩
  have universal : Zone.universal.Exists := by decide
  have exist : (capture.shortened digits).fields.Exist := exist_of_dated again all universal
  rcases exists_fits_of_absent again rfl with ⟨form, fits⟩
  have closes : (([] : List Char).rdropWhile Text.isBlank).rdropWhile isBracket = [] := rfl
  have spelled := spelled?_text (proper_shortened proper all) opens closes fits (.inl rfl) exist
  rw [List.append_nil] at spelled
  exact ⟨spelled,
    (Fields.instant_of_exist exist).2 (Fields.not_overshoots_of_universal exist rfl)⟩

/-- Digits behind the sixth do not count. -/
theorem universalMicros_of_counted {digits : List Char}
    (counted : digits.take 6 = capture.fraction.take 6) :
    (capture.shortened digits).fields.universalMicros =
      (capture.shortened capture.fraction).fields.universalMicros := by
  have micros : (capture.shortened digits).fields.micros =
      (capture.shortened capture.fraction).fields.micros := by
    change value (digits.take 6 ++ List.replicate (6 - (digits.take 6).length) '0') =
      value (capture.fraction.take 6 ++ List.replicate (6 - (capture.fraction.take 6).length) '0')
    rw [counted]
  rw [Fields.universalMicros, Fields.universalMicros, Fields.clock, Fields.clock, micros]
  rfl

/-- Beginnings longer than the front without its zone spell nothing. -/
theorem spelled?_of_longer {opening rest beginning : List Char} (proper : capture.Proper)
    (complete : capture.Complete rest) (unheeded : ¬ capture.Heeded)
    (opens : ∀ char ∈ opening, isBracket char = true)
    (within : beginning <+: opening ++ (capture.text ++ rest))
    (longer : (opening ++ (capture.localText ++ capture.fractionText)).length <
      beginning.length) : spelled? beginning = none := by
  rcases ZoneText.exists_head (zoned_of_unheeded unheeded) rest with ⟨char, behind, head, sign⟩
  have front : opening ++ (capture.localText ++ capture.fractionText ++ [char]) <+:
      opening ++ (capture.text ++ rest) := by
    rw [text_of_head head, List.prefix_append_right_inj]
    exact List.prefix_append _ _
  have most : (opening ++ (capture.localText ++ capture.fractionText ++ [char])).length ≤
      beginning.length := by
    rw [← List.append_assoc, List.length_append, List.length_singleton]
    exact longer
  rcases List.prefix_of_prefix_length_le front within most with ⟨more, rfl⟩
  exact spelled?_of_zoned proper complete unheeded opens char (isSolid_of_sign sign) within

/-- What is cut off is the rest of the fraction. -/
theorem shortened_append {digits more : List Char} (whole : capture.fraction = digits ++ more)
    (counted : digits.take 6 = capture.fraction.take 6) :
    (capture.shortened digits).text ++ more = capture.localText ++ capture.fractionText := by
  rw [shortened_text, List.append_assoc]
  congr 1
  cases digits with
  | nil =>
    have nothing : capture.fraction = [] := by
      rcases List.take_eq_nil_iff.mp counted.symm with wrong | nothing
      · cases wrong
      · exact nothing
    obtain rfl : more = [] := whole.symm.trans nothing
    rw [fractionText, fractionText, nothing]
    rfl
  | cons digit digits =>
    rw [fractionText, fractionText, whole]
    rfl

/-- The search among the beginnings of such a front stops before the zone. -/
theorem longestPrefix_of_unheeded {opening rest : List Char} (proper : capture.Proper)
    (complete : capture.Complete rest) (unheeded : ¬ capture.Heeded) (dated : capture.Dated)
    (opens : ∀ char ∈ opening, isBracket char = true) (one : opening.length ≤ 1) :
    ∃ digits more instant, capture.fraction = digits ++ more ∧
      (more = [] ∨ (opening ++ (capture.shortened digits).text).length = searchLength) ∧
      (instant.micros : Int) = (capture.shortened capture.fraction).fields.universalMicros ∧
      longestPrefix (opening ++ (capture.text ++ rest)) =
        .ok (some (instant, remainder (more ++ capture.zone.write ++ rest))) := by
  rcases exists_cut proper one with ⟨digits, more, whole, counted, short, stops⟩
  have shorter : digits <+: capture.fraction := ⟨more, whole.symm⟩
  rcases spelled?_shortened proper dated opens shorter with ⟨spelled, instant, denoted⟩
  have micros := (Fields.micros_of_instant denoted).trans (universalMicros_of_counted counted)
  refine ⟨digits, more, instant, whole, stops, micros, ?_⟩
  have shape : opening ++ (capture.text ++ rest) = opening ++ (capture.shortened digits).text ++
      (more ++ capture.zone.write ++ rest) := by
    rw [text, ← List.append_assoc capture.localText, ← shortened_append whole counted]
    simp only [List.append_assoc]
  have beginning (index : Nat) :
      (opening ++ (capture.text ++ rest)).take (index + 1) <+: opening ++ (capture.text ++ rest) :=
    List.take_prefix _ _
  have inside (index : Nat) :
      ¬ Overshoots ((opening ++ (capture.text ++ rest)).take (index + 1)) := by
    rintro ⟨fields, spells, overshoots⟩
    rcases shortened_of_spelled proper complete unheeded opens (beginning index) spells with
      ⟨_, -, -, rfl⟩
    exact Fields.not_overshoots_of_universal (exist_of_spelled? spells) rfl overshoots
  have longest (index : Nat)
      (longer : (opening ++ (capture.shortened digits).text).length ≤ index)
      (small : index < min (opening ++ (capture.text ++ rest)).length searchLength) :
      spelled? ((opening ++ (capture.text ++ rest)).take (index + 1)) = none := by
    rcases stops with rfl | stops
    · refine spelled?_of_longer proper complete unheeded opens (beginning index) ?_
      have ends := shortened_append whole counted
      rw [List.append_nil] at ends
      rw [← ends, List.length_take, Nat.min_eq_left (by omega)]
      exact Nat.lt_succ_of_le longer
    · omega
  have present : 0 < (opening ++ (capture.shortened digits).text).length := by
    rw [shortened_text, List.length_append, List.length_append, length_localText proper]
    omega
  obtain ⟨last, length⟩ : ∃ last, (opening ++ (capture.shortened digits).text).length = last + 1 :=
    Nat.exists_eq_succ_of_ne_zero (Nat.ne_of_gt present)
  rw [length] at short longest
  rw [shape] at inside longest ⊢
  rw [← ofCandidate_of_spelled spelled] at denoted
  generalize opening ++ (capture.shortened digits).text = front at *
  generalize more ++ capture.zone.write ++ rest = left at *
  have within : last < min (front ++ left).length searchLength := by
    rw [List.length_append]
    omega
  have taken : (front ++ left).take (last + 1) = front := by
    rw [← length, List.take_left]
  have dropped : (front ++ left).drop (last + 1) = left := by
    rw [← length, List.drop_left]
  rw [← taken] at denoted
  rw [longestPrefix_of_longest within (fun index _ => inside index) denoted longest, dropped]

/-- A front that is not heeded is cut before its zone, or within its fraction where the
search ends there, and taken as universal time.  What is cut off goes to the message. -/
theorem extract_of_unheeded {line opening rest after message : List Char} {instant : Instant}
    (proper : capture.Proper) (complete : capture.Complete rest) (unheeded : ¬ capture.Heeded)
    (opens : ∀ char ∈ opening, isBracket char = true) (one : opening.length ≤ 1)
    (trimmed : Text.trim line = opening ++ (capture.text ++ rest))
    (front : isoFront? (Text.trim line) = some (capture.text, after))
    (extracted : extract line = .ok (some instant, message)) :
    (instant.micros : Int) = (capture.shortened capture.fraction).fields.universalMicros ∧
      ∃ digits more, capture.fraction = digits ++ more ∧
        (more = [] ∨ (opening ++ (capture.shortened digits).text).length = searchLength) ∧
        message = remainder (more ++ capture.zone.write ++ rest) := by
  rw [extract_of_trimmed (trim_ne_nil proper trimmed), front] at extracted
  dsimp only at extracted
  rw [ofCandidate_of_unspelled (spelled?_of_unheeded proper complete unheeded)] at extracted
  dsimp only at extracted
  rcases exists_spelled_of_extractPrefix extracted with ⟨count, fields, spelled⟩
  have within := List.take_prefix count (Text.trim line)
  rw [trimmed] at within spelled extracted
  have dated := dated_of_spelled proper opens within spelled
  rcases longestPrefix_of_unheeded proper complete unheeded dated opens one with
    ⟨digits, more, moment, whole, stops, micros, found⟩
  rw [extractPrefix, found] at extracted
  cases extracted
  exact ⟨micros, digits, more, whole, stops, rfl⟩

end Capture

/-- A line consists of what is dropped in front, which is one character at most, and the
rest. -/
theorem dropOne_split (drop : Char → Bool) (chars : List Char) :
    ∃ dropped, chars = dropped ++ dropOne drop chars ∧ dropped.length ≤ 1 ∧
      ∀ char ∈ dropped, drop char = true := by
  have none_dropped : ∀ char ∈ ([] : List Char), drop char = true := fun _ wrong => nomatch wrong
  cases chars with
  | nil => exact ⟨[], rfl, Nat.zero_le 1, none_dropped⟩
  | cons char rest =>
    rw [dropOne]
    by_cases dropped : drop char = true
    · rw [if_pos dropped]
      exact ⟨[char], rfl, Nat.le_refl 1, fun _ member => List.mem_singleton.mp member ▸ dropped⟩
    · rw [if_neg dropped]
      exact ⟨[], rfl, Nat.zero_le 1, none_dropped⟩

/-- A captured front of which a moment is extracted is split by its zone.  A heeded one
denotes the moment as a whole, and the rest of the line is the message.  Of any other the
date and the clock are taken as universal time, and the zone goes to the message, with
what the search leaves of a long fraction. -/
theorem extract_of_front {line front rest message : List Char} {instant : Instant}
    (found : isoFront? (Text.trim line) = some (front, rest))
    (extracted : extract line = .ok (some instant, message)) :
    ∃ (capture : Capture) (opening behind : List Char), capture.Proper ∧ front = capture.text ∧
      Text.trim line = opening ++ (front ++ behind) ∧ opening.length ≤ 1 ∧
      rest = dropOne closeBrackets.contains behind ∧
      (capture.Heeded →
        (instant.micros : Int) = capture.fields.universalMicros ∧ message = remainder rest) ∧
      (¬ capture.Heeded →
        (instant.micros : Int) = (capture.shortened capture.fraction).fields.universalMicros ∧
        ∃ digits more, capture.fraction = digits ++ more ∧
          (more = [] ∨ (opening ++ (capture.shortened digits).text).length = searchLength) ∧
          message = remainder (more ++ capture.zone.write ++ behind)) := by
  rcases isoFront?_eq_some_iff.mp found with ⟨capture, behind, proper, complete, inner, rfl, rfl⟩
  rcases dropOne_split openBrackets.contains (Text.trim line) with ⟨opening, shape, one, dropped⟩
  have opens : ∀ char ∈ opening, isBracket char = true := by
    intro char member
    rw [isBracket, dropped char member, Bool.true_or]
  rw [inner] at shape
  refine ⟨capture, opening, behind, proper, rfl, shape, one, rfl, fun heeded => ?_,
    fun unheeded => ?_⟩
  · exact Capture.extract_of_heeded proper heeded opens shape found extracted
  · exact Capture.extract_of_unheeded proper complete unheeded opens one shape found extracted

/-- Two hours ahead of universal time, as databases write it. -/
def blankEntry : List Char := "2024-01-15 10:30:00+02:00 boot".toList

/-- The zone behind the blank is left to the message, and the clock taken as it stands. -/
theorem extract_blankEntry :
    ∃ instant : Instant, instant.date = ⟨2024, 1, 15⟩ ∧ instant.clock = ⟨10, 30, 0, 0⟩ ∧
      extract blankEntry = .ok (some instant, "+02:00 boot".toList) ∧
      ∃ capture : Capture, capture.Proper ∧ "2024-01-15 10:30:00+02:00".toList = capture.text ∧
        ¬ capture.Heeded ∧
        (instant.micros : Int) = (capture.shortened capture.fraction).fields.universalMicros := by
  have found : isoFront? (Text.trim blankEntry) =
      some ("2024-01-15 10:30:00+02:00".toList, " boot".toList) := by decide
  have extracted : extract blankEntry = .ok (some ⟨738899 * dayMicros + 37800000000, by decide⟩,
      "+02:00 boot".toList) := by decide +kernel
  rcases extract_of_front found extracted with
    ⟨capture, opening, behind, proper, front, -, -, -, whole, cut⟩
  have unheeded : ¬ capture.Heeded := fun heeded => absurd (whole heeded).2 (by decide)
  exact ⟨_, by decide, by decide, extracted, capture, proper, front, unheeded,
    (cut unheeded).1⟩

end Timestamp
end ContainerFleet
