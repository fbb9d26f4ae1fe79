import ContainerFleet.Proofs.Text.Digits
import ContainerFleet.Timestamp.Written
import Mathlib.Data.List.Nodup

/-!
# What layouts spell

The grammar of the layouts, apart from how it is read: what text each element may
have and what the text says.  Reading takes at the front of a text just what the
grammar allows.  Three elements have no fixed width; they take all they can, so that
what a text spells is read only where nothing follows that would prolong it.
-/

namespace ContainerFleet
namespace Timestamp

open Digits

theorem Zone.eq_signOf {sign : Char} (isSign : sign = '+' ∨ sign = '-') :
    ∃ ahead, sign = signOf ahead := by
  rcases isSign with rfl | rfl
  · exact ⟨true, rfl⟩
  · exact ⟨false, rfl⟩

namespace Element

/-- The texts of an element, and the fields after each of them has been read. -/
inductive Spells (before : Fields) : Element → Fields → List Char → Prop where
  | literal (char : Char) : Spells before (.literal char) before [char]
  | year {digits : List Char} (run : IsRun 4 digits) :
      Spells before .year { before with date.year := value digits } digits
  | month {digits : List Char} (run : IsRun 2 digits) :
      Spells before .month { before with date.month := value digits } digits
  | monthName {index : Nat} {name : List Char} (named : monthNames[index]? = some name) :
      Spells before .monthName { before with date.month := index + 1 } name
  | weekday {name : List Char} (named : name ∈ weekdayNames) : Spells before .weekday before name
  | day {digits : List Char} (run : IsRun 2 digits) :
      Spells before .day { before with date.day := value digits } digits
  | looseDay {blanks digits : List Char} (space : blanks = [' '] ∨ blanks = [' ', ' '])
      (run : IsRun 1 digits ∨ IsRun 2 digits) :
      Spells before .looseDay { before with date.day := value digits } (blanks ++ digits)
  | clock {hour minute second : List Char} (hours : IsRun 2 hour) (minutes : IsRun 2 minute)
      (seconds : IsRun 2 second) :
      Spells before .clock
        { before with hour := value hour, minute := value minute, second := value second }
        (hour ++ ':' :: (minute ++ ':' :: second))
  | whole : Spells before .fraction before []
  | fraction {digits : List Char} (present : digits ≠ []) (all : AllDigits digits) :
      Spells before .fraction { before with fraction := digits } ('.' :: digits)
  | universal : Spells before .zone { before with zone := .universal } ['Z']
  | shifted (ahead : Bool) {hours minutes : List Char} (hour : IsRun 2 hours)
      (minute : IsRun 2 minutes) :
      Spells before .zone { before with zone := .shifted ahead (value hours) (value minutes) }
        (Zone.signOf ahead :: (hours ++ ':' :: minutes))
  | compact (ahead : Bool) {hours minutes : List Char} (hour : IsRun 2 hours)
      (minute : IsRun 2 minutes) :
      Spells before .compactZone
        { before with zone := .shifted ahead (value hours) (value minutes) }
        (Zone.signOf ahead :: (hours ++ minutes))
  | zoneName {name : List Char} (low : 3 ≤ name.length) (high : name.length ≤ 5)
      (capitals : ∀ char ∈ name, char.isUpper = true) : Spells before .zoneName before name

/-- A character with which the text of an element may go on. -/
def prolongs : Element → Char → Bool
  | .looseDay, char => char.isDigit
  | .fraction, char => char.isDigit || char = '.'
  | .zoneName, char => char.isUpper
  | _, _ => false

/-! ## Reading what is spelled -/

theorem char?_eq_some_iff {expected : Char} {chars rest : List Char} :
    char? expected chars = some rest ↔ chars = expected :: rest := by
  cases chars with
  | nil => exact iff_of_false (fun wrong => nomatch wrong) (fun wrong => nomatch wrong)
  | cons char more =>
    rw [char?]
    by_cases same : char = expected
    · rw [if_pos same, same]
      simp
    · rw [if_neg same]
      exact iff_of_false (fun wrong => nomatch wrong) fun wrong => same (List.cons.inj wrong).1

theorem char?_cons (char : Char) (rest : List Char) : char? char (char :: rest) = some rest :=
  if_pos rfl

theorem number?_eq_some_iff {count number : Nat} {chars rest : List Char} :
    number? count chars = some (number, rest) ↔
      ∃ digits, IsRun count digits ∧ value digits = number ∧ chars = digits ++ rest := by
  rw [number?, Option.map_eq_some_iff]
  constructor
  · rintro ⟨⟨digits, after⟩, taken, same⟩
    cases same
    rcases take?_eq_some_iff.mp taken with ⟨run, shape⟩
    exact ⟨digits, run, rfl, shape⟩
  · rintro ⟨digits, run, rfl, rfl⟩
    exact ⟨(digits, rest), take?_append_of_isRun run rest, rfl⟩

theorem number?_append {count : Nat} {digits : List Char} (run : IsRun count digits)
    (rest : List Char) : number? count (digits ++ rest) = some (value digits, rest) :=
  number?_eq_some_iff.mpr ⟨digits, run, rfl, rfl⟩

theorem sign?_signOf (ahead : Bool) (rest : List Char) :
    sign? (Zone.signOf ahead :: rest) = some (ahead, rest) := by
  cases ahead <;> rfl

theorem eq_of_sign? {ahead : Bool} {chars rest : List Char}
    (read : sign? chars = some (ahead, rest)) : chars = Zone.signOf ahead :: rest := by
  unfold sign? at read
  split at read <;> cases read <;> rfl

theorem name?_append {names : List (List Char)} {index : Nat} {name : List Char}
    (three : ∀ name ∈ names, name.length = 3) (distinct : names.Nodup)
    (named : names[index]? = some name) (rest : List Char) :
    name? names (name ++ rest) = some (index, rest) := by
  rcases List.getElem?_eq_some_iff.mp named with ⟨within, rfl⟩
  have length := three _ (List.getElem_mem within)
  have front : (names[index] ++ rest).take 3 = names[index] := by
    rw [← length, List.take_left]
  have found : names.findIdx? (· == names[index]) = some index := by
    rw [List.findIdx?_eq_some_iff_getElem]
    refine ⟨within, beq_self_eq_true _, ?_⟩
    intro earlier before same
    have equal := (List.Nodup.getElem_inj_iff distinct).mp (eq_of_beq same)
    omega
  rw [name?, front, found, Option.map_some, ← length, List.drop_left]

theorem eq_of_name? {names : List (List Char)} {index : Nat} {chars rest : List Char}
    (read : name? names chars = some (index, rest)) :
    ∃ name, names[index]? = some name ∧ chars = name ++ rest := by
  rcases Option.map_eq_some_iff.mp read with ⟨found, at_, same⟩
  cases same
  rcases List.findIdx?_eq_some_iff_getElem.mp at_ with ⟨within, matched, -⟩
  refine ⟨chars.take 3, ?_, (List.take_append_drop 3 chars).symm⟩
  rw [List.getElem?_eq_getElem within, eq_of_beq matched]

theorem monthNames_three : ∀ name ∈ monthNames, name.length = 3 := by decide

theorem weekdayNames_three : ∀ name ∈ weekdayNames, name.length = 3 := by decide

theorem char?_blank_of_digit {digit : Char} (isDigit : digit.isDigit = true) (rest : List Char) :
    char? ' ' (digit :: rest) = none := by
  rw [char?, if_neg]
  rintro rfl
  exact absurd isDigit (by decide)

theorem shortNumber?_append {digits rest : List Char} (run : IsRun 1 digits ∨ IsRun 2 digits)
    (ends : Ends Char.isDigit rest) :
    shortNumber? (digits ++ rest) = some (value digits, rest) := by
  rcases run with run | run
  · have notTwo : number? 2 (digits ++ rest) = none := by
      rcases run with ⟨length, -⟩
      rcases List.length_eq_one_iff.mp length with ⟨digit, rfl⟩
      cases rest with
      | nil => cases known : digit.isDigit <;> simp [number?, take?, known]
      | cons char rest =>
        have other := ends_cons.mp ends
        cases known : digit.isDigit <;> simp [number?, take?, known, other]
    rw [shortNumber?, notTwo, number?_append run]
    rfl
  · rw [shortNumber?, number?_append run]
    rfl

theorem capitals_append {name rest : List Char} (high : name.length ≤ 5)
    (capitals : ∀ char ∈ name, char.isUpper = true) (ends : Ends Char.isUpper rest) :
    ((name ++ rest).take 5).takeWhile Char.isUpper = name := by
  have stops : (rest.take (5 - name.length)).takeWhile Char.isUpper = [] := by
    cases rest with
    | nil => rw [List.take_nil, List.takeWhile_nil]
    | cons char rest =>
      cases 5 - name.length with
      | zero => rfl
      | succ count =>
        have stop := Bool.eq_false_iff.mp (ends_cons.mp ends)
        rw [List.take_succ_cons, List.takeWhile_cons_of_neg stop]
  rw [List.take_append, List.take_of_length_le high, List.takeWhile_append_of_pos capitals, stops,
    List.append_nil]

theorem exists_cons_of_shortRun {digits : List Char} (run : IsRun 1 digits ∨ IsRun 2 digits) :
    ∃ digit more, digits = digit :: more ∧ digit.isDigit = true := by
  rcases run with run | run
  all_goals
    rcases exists_cons_of_isRun run with ⟨digit, more, shape, isDigit, -⟩
    exact ⟨digit, more, shape, isDigit⟩

theorem read_looseDay (before : Fields) {blanks digits rest : List Char}
    (space : blanks = [' '] ∨ blanks = [' ', ' ']) (run : IsRun 1 digits ∨ IsRun 2 digits)
    (ends : Ends Char.isDigit rest) :
    looseDay.read before (blanks ++ digits ++ rest) =
      some ({ before with date.day := value digits }, rest) := by
  rcases exists_cons_of_shortRun run with ⟨digit, more, rfl, isDigit⟩
  have number := shortNumber?_append run ends
  rw [List.cons_append] at number
  have noBlank := char?_blank_of_digit isDigit (more ++ rest)
  rcases space with rfl | rfl
  · simp [read, char?_cons, noBlank, number]
  · simp [read, char?_cons, number]

theorem read_whole (before : Fields) {rest : List Char} (ends : Ends fraction.prolongs rest) :
    fraction.read before rest = some (before, rest) := by
  rw [read.eq_def]
  dsimp only
  split
  · rename_i digit rest
    exact absurd (ends_cons.mp ends) (by simp [prolongs])
  · rfl

theorem read_fraction (before : Fields) {digits rest : List Char} (present : digits ≠ [])
    (all : AllDigits digits) (ends : Ends fraction.prolongs rest) :
    fraction.read before ('.' :: (digits ++ rest)) =
      some ({ before with fraction := digits }, rest) := by
  rcases List.exists_cons_of_ne_nil present with ⟨digit, more, rfl⟩
  have first := all digit List.mem_cons_self
  have outside : Ends Char.isDigit rest := fun char member =>
    (Bool.or_eq_false_iff.mp (ends char member)).1
  have split := split_append_of_ends all outside
  rw [List.cons_append] at split
  simp [read, first, split]

/-- What an element spells is read as that, where nothing behind it prolongs it. -/
theorem read_of_spells {element : Element} {before after : Fields} {written rest : List Char}
    (spells : element.Spells before after written) (ends : Ends element.prolongs rest) :
    element.read before (written ++ rest) = some (after, rest) := by
  cases spells with
  | literal char => simp [read, char?_cons]
  | year run | month run | day run =>
    rw [read, number?_append run]
    rfl
  | monthName named =>
    rw [read, name?_append monthNames_three (by decide) named]
    rfl
  | weekday named =>
    rcases List.mem_iff_getElem?.mp named with ⟨index, found⟩
    rw [read, name?_append weekdayNames_three (by decide) found]
    rfl
  | looseDay space run => exact read_looseDay before space run ends
  | clock hours minutes seconds =>
    simp [read, number?_append, hours, minutes, seconds, char?_cons]
  | whole => exact read_whole before ends
  | fraction present all => exact read_fraction before present all ends
  | universal => rfl
  | shifted ahead hour minute =>
    cases ahead <;> simp [read, Zone.signOf, sign?, number?_append, hour, minute, char?_cons]
  | compact ahead hour minute =>
    simp [read, sign?_signOf, number?_append, hour, minute]
  | zoneName low high capitals =>
    rw [read, capitals_append high capitals ends, if_pos low, List.drop_left]

/-! ## What was read is spelled -/

section Parts

variable {α : Type} {found : α} {chars : List Char}

/-- A character is read before the rest. -/
theorem exists_char {expected : Char} {next : List Char → Option α}
    (taken : (char? expected chars).bind next = some found) :
    ∃ rest, chars = expected :: rest ∧ next rest = some found := by
  rcases Option.bind_eq_some_iff.mp taken with ⟨rest, read, later⟩
  exact ⟨rest, char?_eq_some_iff.mp read, later⟩

/-- A number of a fixed width is read before the rest. -/
theorem exists_digits {count : Nat} {next : Nat × List Char → Option α}
    (taken : (number? count chars).bind next = some found) :
    ∃ digits rest, IsRun count digits ∧ chars = digits ++ rest ∧
      next (value digits, rest) = some found := by
  rcases Option.bind_eq_some_iff.mp taken with ⟨⟨number, rest⟩, read, later⟩
  rcases number?_eq_some_iff.mp read with ⟨digits, run, rfl, shape⟩
  exact ⟨digits, rest, run, shape, later⟩

/-- One or two digits are read before the rest. -/
theorem exists_shortDigits {next : Nat × List Char → Option α}
    (taken : (shortNumber? chars).bind next = some found) :
    ∃ digits rest, (IsRun 1 digits ∨ IsRun 2 digits) ∧ chars = digits ++ rest ∧
      next (value digits, rest) = some found := by
  rcases Option.bind_eq_some_iff.mp taken with ⟨⟨number, rest⟩, read, later⟩
  rcases Option.or_eq_some_iff.mp read with two | ⟨-, one⟩
  · rcases number?_eq_some_iff.mp two with ⟨digits, run, rfl, shape⟩
    exact ⟨digits, rest, .inr run, shape, later⟩
  · rcases number?_eq_some_iff.mp one with ⟨digits, run, rfl, shape⟩
    exact ⟨digits, rest, .inl run, shape, later⟩

/-- A name from a list is read before the rest. -/
theorem exists_name {names : List (List Char)} {next : Nat × List Char → Option α}
    (taken : (name? names chars).bind next = some found) :
    ∃ index name rest, names[index]? = some name ∧ chars = name ++ rest ∧
      next (index, rest) = some found := by
  rcases Option.bind_eq_some_iff.mp taken with ⟨⟨index, rest⟩, read, later⟩
  rcases eq_of_name? read with ⟨name, named, shape⟩
  exact ⟨index, name, rest, named, shape, later⟩

/-- A sign is read before the rest. -/
theorem exists_sign {next : Bool × List Char → Option α}
    (taken : (sign? chars).bind next = some found) :
    ∃ ahead rest, chars = Zone.signOf ahead :: rest ∧ next (ahead, rest) = some found := by
  rcases Option.bind_eq_some_iff.mp taken with ⟨⟨ahead, rest⟩, read, later⟩
  exact ⟨ahead, rest, eq_of_sign? read, later⟩

end Parts

variable {element : Element} {before after : Fields} {chars rest : List Char}

/-- An element that is a number, which goes into the fields. -/
theorem spells_of_number {count : Nat} (into : Nat → Fields)
    (spells : ∀ {digits}, IsRun count digits → element.Spells before (into (value digits)) digits)
    (taken : ((number? count chars).bind fun read => some (into read.1, read.2)) =
      some (after, rest)) :
    ∃ written, chars = written ++ rest ∧ element.Spells before after written := by
  rcases exists_digits taken with ⟨digits, behind, run, shape, same⟩
  cases same
  exact ⟨digits, shape, spells run⟩

/-- An element that is a name, of which the place in the list goes into the fields. -/
theorem spells_of_name {names : List (List Char)} (into : Nat → Fields)
    (spells : ∀ {index name}, names[index]? = some name → element.Spells before (into index) name)
    (taken : ((name? names chars).bind fun read => some (into read.1, read.2)) =
      some (after, rest)) :
    ∃ written, chars = written ++ rest ∧ element.Spells before after written := by
  rcases exists_name taken with ⟨index, name, behind, named, shape, same⟩
  cases same
  exact ⟨name, shape, spells named⟩

theorem spells_of_literal {expected : Char}
    (taken : (literal expected).read before chars = some (after, rest)) :
    ∃ written, chars = written ++ rest ∧ (literal expected).Spells before after written := by
  rcases Option.map_eq_some_iff.mp taken with ⟨behind, read, same⟩
  cases same
  exact ⟨[expected], char?_eq_some_iff.mp read, .literal expected⟩

theorem spells_of_looseDay (taken : looseDay.read before chars = some (after, rest)) :
    ∃ written, chars = written ++ rest ∧ looseDay.Spells before after written := by
  rcases exists_char taken with ⟨behind, rfl, later⟩
  rcases exists_shortDigits later with ⟨digits, behindDay, run, shape, same⟩
  cases same
  cases second : char? ' ' behind with
  | none =>
    rw [second, Option.getD_none] at shape
    exact ⟨[' '] ++ digits, by rw [shape]; rfl, .looseDay (.inl rfl) run⟩
  | some others =>
    rw [second, Option.getD_some] at shape
    exact ⟨[' ', ' '] ++ digits, by rw [char?_eq_some_iff.mp second, shape]; rfl,
      .looseDay (.inr rfl) run⟩

theorem spells_of_clock (taken : clock.read before chars = some (after, rest)) :
    ∃ written, chars = written ++ rest ∧ clock.Spells before after written := by
  rcases exists_digits taken with ⟨hours, _, hour, rfl, behindHours⟩
  rcases exists_char behindHours with ⟨_, rfl, beforeMinutes⟩
  rcases exists_digits beforeMinutes with ⟨minutes, _, minute, rfl, behindMinutes⟩
  rcases exists_char behindMinutes with ⟨_, rfl, beforeSeconds⟩
  rcases exists_digits beforeSeconds with ⟨seconds, _, second, rfl, same⟩
  cases same
  refine ⟨_, ?_, .clock hour minute second⟩
  simp only [List.append_assoc, List.cons_append]

theorem spells_of_fraction (taken : fraction.read before chars = some (after, rest)) :
    ∃ written, chars = written ++ rest ∧ fraction.Spells before after written := by
  rw [read.eq_def] at taken
  dsimp only at taken
  split at taken
  · rename_i digit more
    split at taken
    · rename_i isDigit
      cases taken
      have first : ((digit :: more).takeWhile Char.isDigit) ≠ [] := by
        rw [List.takeWhile_cons_of_pos isDigit]
        exact List.cons_ne_nil _ _
      refine ⟨'.' :: (split (digit :: more)).1, ?_, .fraction first (allDigits_split _)⟩
      rw [List.cons_append, split_append]
    · cases taken
      exact ⟨[], rfl, .whole⟩
  · cases taken
    exact ⟨[], rfl, .whole⟩

theorem spells_of_zone (taken : zone.read before chars = some (after, rest)) :
    ∃ written, chars = written ++ rest ∧ zone.Spells before after written := by
  rw [read.eq_def] at taken
  dsimp only at taken
  split at taken
  · cases taken
    exact ⟨['Z'], rfl, .universal⟩
  · rcases exists_sign taken with ⟨ahead, _, rfl, beforeHours⟩
    rcases exists_digits beforeHours with ⟨hours, _, hour, rfl, behindHours⟩
    rcases exists_char behindHours with ⟨_, rfl, beforeMinutes⟩
    rcases exists_digits beforeMinutes with ⟨minutes, _, minute, rfl, same⟩
    cases same
    refine ⟨_, ?_, .shifted ahead hour minute⟩
    simp only [List.append_assoc, List.cons_append]

theorem spells_of_compactZone (taken : compactZone.read before chars = some (after, rest)) :
    ∃ written, chars = written ++ rest ∧ compactZone.Spells before after written := by
  rcases exists_sign taken with ⟨ahead, _, rfl, beforeHours⟩
  rcases exists_digits beforeHours with ⟨hours, _, hour, rfl, beforeMinutes⟩
  rcases exists_digits beforeMinutes with ⟨minutes, _, minute, rfl, same⟩
  cases same
  refine ⟨_, ?_, .compact ahead hour minute⟩
  rw [List.cons_append, List.append_assoc]

theorem spells_of_zoneName (taken : zoneName.read before chars = some (after, rest)) :
    ∃ written, chars = written ++ rest ∧ zoneName.Spells before after written := by
  rw [read] at taken
  split at taken
  · rename_i low
    cases taken
    have front : ((chars.take 5).takeWhile Char.isUpper) <+: chars :=
      (List.takeWhile_prefix _).trans (List.take_prefix 5 chars)
    refine ⟨_, (List.prefix_iff_eq_append.mp front).symm, .zoneName low ?_ ?_⟩
    · exact (List.takeWhile_prefix _).length_le.trans (List.length_take_le 5 chars)
    · exact fun char member => List.mem_takeWhile_imp member
  · cases taken

/-- An element takes at the front of a text only what it spells. -/
theorem spells_of_read (taken : element.read before chars = some (after, rest)) :
    ∃ written, chars = written ++ rest ∧ element.Spells before after written := by
  cases element with
  | literal expected => exact spells_of_literal taken
  | year => exact spells_of_number (fun year => { before with date.year := year }) .year taken
  | month => exact spells_of_number (fun month => { before with date.month := month }) .month taken
  | day => exact spells_of_number (fun day => { before with date.day := day }) .day taken
  | monthName =>
    exact spells_of_name (fun index => { before with date.month := index + 1 }) .monthName taken
  | weekday =>
    exact spells_of_name (fun _ => before)
      (fun named => .weekday (List.mem_of_getElem? named)) taken
  | looseDay => exact spells_of_looseDay taken
  | clock => exact spells_of_clock taken
  | fraction => exact spells_of_fraction taken
  | zone => exact spells_of_zone taken
  | compactZone => exact spells_of_compactZone taken
  | zoneName => exact spells_of_zoneName taken

/-- What may stand behind an element in a layout, so that the element ends there. -/
def endsBefore : Element → Element → Bool
  | element, .literal char => !element.prolongs char
  | .fraction, .zone | .fraction, .compactZone => true
  | .looseDay, _ | .fraction, _ | .zoneName, _ => false
  | _, _ => true

theorem ends_of_endsBefore {element next : Element} (separate : element.endsBefore next = true)
    {before after : Fields} {written : List Char} (spells : next.Spells before after written)
    (rest : List Char) : Ends element.prolongs (written ++ rest) := by
  cases spells with
  | literal char =>
    rw [List.singleton_append, ends_cons]
    cases element <;> exact (Bool.not_eq_true' _).mp separate
  | shifted ahead hour minute | compact ahead hour minute =>
    rw [List.cons_append, ends_cons]
    cases element <;> cases ahead <;> rfl
  | universal =>
    rw [List.singleton_append, ends_cons]
    cases element <;> first | rfl | cases separate
  | year | month | monthName | weekday | day | looseDay | clock | whole | fraction | zoneName =>
    intro char member
    cases element <;> first | rfl | cases separate

end Element

namespace Layout

/-- The texts of some elements one after another. -/
inductive SpellAll : List Element → Fields → Fields → List Char → Prop where
  | nil (fields : Fields) : SpellAll [] fields fields []
  | cons {element : Element} {later : List Element} {before middle after : Fields}
      {written more : List Char} (first : element.Spells before middle written)
      (others : SpellAll later middle after more) :
      SpellAll (element :: later) before after (written ++ more)

/-- Each element ends where the next one begins. -/
def separated : List Element → Bool
  | element :: next :: later => element.endsBefore next && separated (next :: later)
  | _ => true

/-- A character with which the last of some elements may go on. -/
def lastProlongs : List Element → Char → Bool
  | [] => fun _ => false
  | [element] => element.prolongs
  | _ :: later => lastProlongs later

/-- What some elements spell is read as that, where nothing behind prolongs the last. -/
theorem readElements_of_spellAll {elements : List Element} {before after : Fields}
    {written rest : List Char} (separate : separated elements = true)
    (spells : SpellAll elements before after written)
    (ends : Ends (lastProlongs elements) rest) :
    readElements elements before (written ++ rest) = some (after, rest) := by
  induction spells with
  | nil fields => rfl
  | @cons element later before middle after written more first others inductionHypothesis =>
    have read : element.read before (written ++ (more ++ rest)) = some (middle, more ++ rest) := by
      refine Element.read_of_spells first ?_
      cases others with
      | nil => exact ends
      | cons second others =>
        rw [List.append_assoc]
        exact Element.ends_of_endsBefore (Bool.and_eq_true_iff.mp separate).1 second _
    have tail : readElements later middle (more ++ rest) = some (after, rest) := by
      cases others with
      | nil => rfl
      | cons second others =>
        exact inductionHypothesis (Bool.and_eq_true_iff.mp separate).2 ends
    rw [List.append_assoc, readElements, read]
    exact tail

theorem spellAll_of_readElements {elements : List Element} {before after : Fields}
    {chars rest : List Char} (taken : readElements elements before chars = some (after, rest)) :
    ∃ written, chars = written ++ rest ∧ SpellAll elements before after written := by
  induction elements generalizing before chars with
  | nil =>
    cases taken
    exact ⟨[], rfl, .nil _⟩
  | cons element later inductionHypothesis =>
    rcases Option.bind_eq_some_iff.mp taken with ⟨⟨middle, more⟩, first, tail⟩
    rcases Element.spells_of_read first with ⟨written, rfl, spells⟩
    rcases inductionHypothesis tail with ⟨others, rfl, spellsOthers⟩
    exact ⟨written ++ others, (List.append_assoc _ _ _).symm, .cons spells spellsOthers⟩

theorem spellAll_append {elements later : List Element} {before middle after : Fields}
    {written more : List Char} (first : SpellAll elements before middle written)
    (others : SpellAll later middle after more) :
    SpellAll (elements ++ later) before after (written ++ more) := by
  induction first with
  | nil fields => exact others
  | cons element _ inductionHypothesis =>
    rw [List.append_assoc]
    exact .cons element (inductionHypothesis others)

theorem spellAll_split (elements : List Element) {later : List Element} {before after : Fields}
    {written : List Char} (spells : SpellAll (elements ++ later) before after written) :
    ∃ middle front back, written = front ++ back ∧ SpellAll elements before middle front ∧
      SpellAll later middle after back := by
  induction elements generalizing before written with
  | nil => exact ⟨before, [], written, rfl, .nil before, spells⟩
  | cons element elements inductionHypothesis =>
    cases spells with
    | cons first others =>
      rcases inductionHypothesis others with ⟨middle, front, back, rfl, spellsFront, spellsBack⟩
      exact ⟨middle, _, back, (List.append_assoc _ _ _).symm, .cons first spellsFront, spellsBack⟩

end Layout

/-- The forms of a timestamp: the layouts, and the internet layout where the zone has
no colon. -/
inductive Form where
  | listed (layout : Layout)
  | compact
  deriving DecidableEq

namespace Form

/-- The elements of a form. -/
def elements : Form → List Element
  | .listed layout => layout.elements
  | .compact => Layout.isoLocal.elements ++ [.compactZone]

/-- The form spells the fields as the text. -/
def Spells (form : Form) (fields : Fields) (text : List Char) : Prop :=
  Layout.SpellAll form.elements .blank fields text

theorem separated_elements (form : Form) : Layout.separated form.elements = true := by
  rcases form with ⟨layout⟩ | _
  · cases layout <;> rfl
  · rfl

end Form
end Timestamp
end ContainerFleet
