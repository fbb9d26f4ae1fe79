import ContainerFleet.Proofs.Text.Trim
import ContainerFleet.Proofs.Timestamp.Apart
import ContainerFleet.Timestamp.Candidate

/-!
# Bare timestamps

What a form spells begins and ends with a character that no trimming takes away, and has
no comma.  Decoration around it comes off, and of what stands behind it the blanks and
then the brackets at the end do.
-/

namespace ContainerFleet
namespace Timestamp

open Digits

/-! ## The fraction mark -/

theorem pointFraction_append {front : List Char} (noComma : ',' ∉ front) (rest : List Char) :
    pointFraction (front ++ rest) = front ++ pointFraction rest := by
  have passes : ∀ char ∈ front, decide (char ≠ ',') = true := fun char member =>
    decide_eq_true fun same => noComma (same ▸ member)
  rw [pointFraction, pointFraction, List.dropWhile_append_of_pos passes,
    List.takeWhile_append_of_pos passes]
  split
  · split
    · rw [List.append_assoc]
    · rfl
  · rfl

theorem pointFraction_of_noComma {text : List Char} (noComma : ',' ∉ text) :
    pointFraction text = text := by
  have nothing : pointFraction [] = [] := rfl
  have whole := pointFraction_append noComma []
  rwa [nothing, List.append_nil] at whole

/-- Behind the first comma nothing changes, and the comma itself at most to a point. -/
theorem pointFraction_comma (tail : List Char) :
    pointFraction (',' :: tail) =
      (if tail ≠ [] ∧ AllDigits tail then '.' else ',') :: tail := by
  by_cases digits : tail ≠ [] ∧ AllDigits tail
  · rw [if_pos digits]
    have numeric : (!tail.isEmpty && tail.all Char.isDigit) = true := by
      simpa [AllDigits] using digits
    exact if_pos numeric
  · rw [if_neg digits]
    have other : ¬ (!tail.isEmpty && tail.all Char.isDigit) = true := by
      simpa [AllDigits] using digits
    exact if_neg other

/-- All characters but commas are kept. -/
theorem mem_pointFraction {text : List Char} {char : Char} (other : char ≠ ',')
    (member : char ∈ text) : char ∈ pointFraction text := by
  by_cases comma : ',' ∈ text
  · rcases List.eq_append_cons_of_mem comma with ⟨front, tail, rfl, before⟩
    rw [pointFraction_append before, pointFraction_comma]
    simp only [List.mem_append, List.mem_cons, other, false_or] at member ⊢
    exact member.imp_right .inr
  · rwa [pointFraction_of_noComma comma]

/-- The first character stays, but for a comma that becomes a point. -/
theorem pointFraction_cons (char : Char) (rest : List Char) :
    ∃ mark more, pointFraction (char :: rest) = mark :: more ∧ (mark = char ∨ mark = '.') := by
  by_cases comma : char = ','
  · subst comma
    rw [pointFraction_comma]
    split
    · exact ⟨_, _, rfl, .inr rfl⟩
    · exact ⟨_, _, rfl, .inl rfl⟩
  · have kept : pointFraction ([char] ++ rest) = [char] ++ pointFraction rest := by
      refine pointFraction_append ?_ rest
      rw [List.mem_singleton]
      exact fun same => comma same.symm
    exact ⟨char, _, kept, .inl rfl⟩

/-- Without a comma or a point afterwards, there was no comma before. -/
theorem eq_of_pointFraction {text out : List Char} (pointed : pointFraction text = out)
    (noPoint : '.' ∉ out) (noComma : ',' ∉ out) : text = out := by
  by_cases comma : ',' ∈ text
  · rcases List.eq_append_cons_of_mem comma with ⟨front, tail, rfl, before⟩
    rw [pointFraction_append before, pointFraction_comma] at pointed
    rw [← pointed, List.mem_append, List.mem_cons] at noPoint noComma
    split at noPoint
    · exact absurd (.inr (.inl rfl)) noPoint
    · rename_i other
      rw [if_neg other] at noComma
      exact absurd (.inr (.inl rfl)) noComma
  · rw [← pointed, pointFraction_of_noComma comma]

/-- A point afterwards was a point before, or a comma with only digits behind it. -/
theorem cons_of_pointFraction {text out : List Char} (pointed : pointFraction text = '.' :: out)
    (noPoint : '.' ∉ out) (noComma : ',' ∉ out) :
    text = '.' :: out ∨ (text = ',' :: out ∧ out ≠ [] ∧ AllDigits out) := by
  cases text with
  | nil => cases pointed
  | cons char rest =>
    by_cases comma : char = ','
    · subst comma
      rw [pointFraction_comma] at pointed
      split at pointed
      · rename_i digits
        cases pointed
        exact .inr ⟨rfl, digits⟩
      · cases pointed
    · have before : ',' ∉ [char] := by
        rw [List.mem_singleton]
        exact fun same => comma same.symm
      have kept := pointFraction_append before rest
      rw [List.singleton_append, pointed] at kept
      rcases List.cons.inj kept with ⟨rfl, later⟩
      exact .inl (congrArg _ (eq_of_pointFraction later.symm noPoint noComma))

/-! ## Bare text -/

/-- A character that neither trimming nor removing brackets takes away. -/
def isSolid (char : Char) : Bool :=
  !Text.isBlank char && !isBracket char

theorem isBlank_of_isBracket {char : Char} (bracket : isBracket char = true) :
    Text.isBlank char = false := by
  have none_blank : (openBrackets ++ closeBrackets).all (fun char => !Text.isBlank char) = true := by
    decide
  have member : char ∈ openBrackets ++ closeBrackets := by
    rw [List.mem_append]
    simpa [isBracket] using bracket
  exact (Bool.not_eq_true' _).mp (List.all_eq_true.mp none_blank char member)

/-- A candidate without its decoration: brackets in front are dropped, and blanks and
then brackets at the end. -/
theorem undecorated_append {opening : List Char} {first : Char}
    (opens : ∀ char ∈ opening, isBracket char = true) (solid : isSolid first = true)
    (rest : List Char) :
    undecorated (opening ++ first :: rest) =
      ((first :: rest).rdropWhile Text.isBlank).rdropWhile isBracket := by
  obtain ⟨visible, bare⟩ : Text.isBlank first = false ∧ isBracket first = false := by
    simpa [isSolid] using solid
  have nothing_before : (opening ++ first :: rest).dropWhile Text.isBlank =
      opening ++ first :: rest := by
    cases opening with
    | nil => exact List.dropWhile_cons_of_neg (Bool.eq_false_iff.mp visible)
    | cons char opening =>
      have bracket := isBlank_of_isBracket (opens char List.mem_cons_self)
      exact List.dropWhile_cons_of_neg (Bool.eq_false_iff.mp bracket)
  have behind : (first :: rest).rdropWhile Text.isBlank = first :: rest.rdropWhile Text.isBlank :=
    Text.rdropWhile_append [] visible rest
  rw [undecorated, Text.trim, Text.stripBoth_eq, Text.stripBoth_eq, nothing_before,
    Text.rdropWhile_append opening visible, Text.dropWhile_all opens,
    List.dropWhile_cons_of_neg (Bool.eq_false_iff.mp bare), behind]

theorem undecorated_brackets {opening : List Char}
    (opens : ∀ char ∈ opening, isBracket char = true) : undecorated opening = [] := by
  have brackets : ∀ char ∈ Text.trim opening, isBracket char = true := by
    intro char member
    have within := (List.rdropWhile_prefix Text.isBlank _).subset member
    exact opens char ((List.dropWhile_suffix Text.isBlank).subset within)
  rw [undecorated, Text.stripBoth_eq, List.dropWhile_eq_nil_iff.mpr brackets]
  rfl

def StartsSolid (text : List Char) : Prop :=
  ∃ first rest, text = first :: rest ∧ isSolid first = true

def EndsSolid (text : List Char) : Prop :=
  ∃ front last, text = front ++ [last] ∧ isSolid last = true

/-- Decoration around a solid text comes off, and so do blanks and brackets at the end of
what stands behind it. -/
theorem undecorated_of_solid {opening text : List Char}
    (opens : ∀ char ∈ opening, isBracket char = true) (starts : StartsSolid text)
    (ends : EndsSolid text) (rest : List Char) :
    undecorated (opening ++ text ++ rest) =
      text ++ (rest.rdropWhile Text.isBlank).rdropWhile isBracket := by
  rcases starts with ⟨first, more, starts, solid⟩
  rcases ends with ⟨front, last, ends, solidLast⟩
  obtain ⟨visible, unbracketed⟩ : Text.isBlank last = false ∧ isBracket last = false := by
    simpa [isSolid] using solidLast
  have whole : first :: (more ++ rest) = front ++ last :: rest := by
    rw [← List.cons_append, ← starts, ends, List.append_assoc, List.singleton_append]
  rw [starts, List.append_assoc, List.cons_append, undecorated_append opens solid, whole,
    Text.rdropWhile_append front visible, Text.rdropWhile_append front unbracketed, ← starts, ends,
    List.append_assoc, List.singleton_append]

/-- Brackets in front of a solid text come off, and nothing else does. -/
theorem undecorated_opening {opening text : List Char}
    (opens : ∀ char ∈ opening, isBracket char = true) (starts : StartsSolid text)
    (ends : EndsSolid text) : undecorated (opening ++ text) = text := by
  have bare := undecorated_of_solid opens starts ends []
  rw [List.append_nil] at bare
  exact bare.trans (List.append_nil text)

/-- A text without decoration at its ends is bare. -/
theorem undecorated_eq_self {text : List Char} (starts : StartsSolid text)
    (ends : EndsSolid text) : undecorated text = text :=
  undecorated_opening (List.forall_mem_nil _) starts ends

/-! ## What a form spells is bare -/

theorem isSolid_of_isDigit {char : Char} (digit : char.isDigit = true) : isSolid char = true := by
  have every : ∀ value < 10, isSolid (Nat.digitChar value) = true := by decide
  rcases digit_valueOf digit with ⟨small, back⟩
  rw [← back]
  exact every _ small

theorem noComma_of_allDigits {digits : List Char} (all : AllDigits digits) : ',' ∉ digits :=
  fun member => absurd (all ',' member) (by decide)

theorem endsSolid_of_allDigits {digits : List Char} (present : digits ≠ [])
    (all : AllDigits digits) : EndsSolid digits := by
  rcases List.eq_nil_or_concat digits with rfl | ⟨front, last, rfl⟩
  · exact absurd rfl present
  · rw [List.concat_eq_append] at all ⊢
    exact ⟨front, last, rfl, isSolid_of_isDigit (all last (by simp))⟩

theorem endsSolid_of_isRun {count : Nat} {digits : List Char} (run : IsRun (count + 1) digits) :
    EndsSolid digits := by
  rcases exists_cons_of_isRun run with ⟨digit, more, rfl, -, -⟩
  exact endsSolid_of_allDigits (List.cons_ne_nil _ _) run.2

theorem StartsSolid.append {text : List Char} (starts : StartsSolid text) (rest : List Char) :
    StartsSolid (text ++ rest) := by
  rcases starts with ⟨first, more, rfl, solid⟩
  exact ⟨first, more ++ rest, rfl, solid⟩

theorem EndsSolid.append {text : List Char} (ends : EndsSolid text) (front : List Char) :
    EndsSolid (front ++ text) := by
  rcases ends with ⟨more, last, rfl, solid⟩
  exact ⟨front ++ more, last, (List.append_assoc _ _ _).symm, solid⟩

namespace Element

/-- Neither a letter or digit nor one of the marks that stand between them: no element holds
the character, unless it spells nothing else. -/
def isForeign (char : Char) : Bool :=
  !char.isAlphanum && !([' ', ':', '.', '+', '-', '/'].contains char)

theorem not_mem_of_allDigits {mark : Char} (foreign : isForeign mark = true)
    {digits : List Char} (all : AllDigits digits) : mark ∉ digits := by
  intro member
  have digit := all mark member
  have letter : mark.isAlphanum = (mark.isAlpha || mark.isDigit) := rfl
  rw [isForeign, letter, digit, Bool.or_true] at foreign
  cases foreign

theorem not_mem_of_spells {element : Element} {before after : Fields} {written : List Char}
    {mark : Char} (foreign : isForeign mark = true) (other : element ≠ .literal mark)
    (spells : element.Spells before after written) : mark ∉ written := by
  have letters : ∀ name ∈ monthNames ++ weekdayNames, name.all Char.isAlphanum = true := by decide
  have named {name : List Char} (member : name ∈ monthNames ++ weekdayNames) : mark ∉ name := by
    intro inName
    have letter := List.all_eq_true.mp (letters name member) mark inName
    simp [isForeign, letter] at foreign
  have digits {digits : List Char} (all : AllDigits digits) : mark ∉ digits :=
    not_mem_of_allDigits foreign all
  have marks : mark ∉ [' ', ':', '.', '+', '-', '/'] := by
    simp only [isForeign, Bool.and_eq_true, Bool.not_eq_true', List.contains_eq_mem,
      decide_eq_false_iff_not] at foreign
    exact foreign.2
  simp only [List.mem_cons, List.not_mem_nil, or_false, not_or] at marks
  rcases marks with ⟨blank, colon, point, plus, minus, slash⟩
  cases spells with
  | literal char =>
    rw [List.mem_singleton]
    rintro rfl
    exact other rfl
  | year run | month run | day run => exact digits run.2
  | monthName isMonth => exact named (List.mem_append_left _ (List.mem_of_getElem? isMonth))
  | weekday isWeekday => exact named (List.mem_append_right _ isWeekday)
  | looseDay space run =>
    have day := run.elim (fun run => digits run.2) fun run => digits run.2
    rcases space with rfl | rfl <;> simp [day, blank]
  | clock hours minutes seconds =>
    simp [digits hours.2, digits minutes.2, digits seconds.2, colon]
  | whole => exact List.not_mem_nil
  | fraction present all => simp [digits all, point]
  | universal =>
    rw [List.mem_singleton]
    rintro rfl
    cases foreign
  | shifted ahead hour minute | compact ahead hour minute =>
    cases ahead <;> simp [Zone.signOf, digits hour.2, digits minute.2, plus, minus, colon]
  | zoneName low high capitals =>
    intro member
    have upper := capitals mark member
    have letter : mark.isAlphanum = (mark.isUpper || mark.isLower || mark.isDigit) := rfl
    rw [isForeign, letter, upper] at foreign
    cases foreign

theorem startsSolid_of_spells {element : Element} {before after : Fields} {written : List Char}
    (dated : element = .year ∨ element = .day ∨ element = .weekday)
    (spells : element.Spells before after written) : StartsSolid written := by
  have weekdays : ∀ name ∈ weekdayNames, name.head?.any isSolid = true := by decide
  rcases dated with rfl | rfl | rfl
  · cases spells with
    | year run =>
      rcases exists_cons_of_isRun run with ⟨digit, more, rfl, isDigit, -⟩
      exact ⟨digit, more, rfl, isSolid_of_isDigit isDigit⟩
  · cases spells with
    | day run =>
      rcases exists_cons_of_isRun run with ⟨digit, more, rfl, isDigit, -⟩
      exact ⟨digit, more, rfl, isSolid_of_isDigit isDigit⟩
  · cases spells with
    | weekday named =>
      rcases (Option.any_eq_true _ _).mp (weekdays _ named) with ⟨first, head, solid⟩
      exact ⟨first, _, (List.eq_cons_of_mem_head? head), solid⟩

theorem endsSolid_of_spells {element : Element} {before after : Fields} {written : List Char}
    (closed : element = .year ∨ element = .clock ∨ element = .zone ∨ element = .compactZone)
    (spells : element.Spells before after written) : EndsSolid written := by
  rcases closed with rfl | rfl | rfl | rfl
  · cases spells with
    | year run => exact endsSolid_of_isRun run
  · cases spells with
    | @clock hour minute second hours minutes seconds =>
      have ends := ((endsSolid_of_isRun seconds).append [':']).append minute
      exact (ends.append [':']).append hour
  · cases spells with
    | universal => exact ⟨[], 'Z', rfl, by decide⟩
    | @shifted ahead hours minutes hour minute =>
      have ends := ((endsSolid_of_isRun minute).append [':']).append hours
      exact ends.append [Zone.signOf ahead]
  · cases spells with
    | @compact ahead hours minutes hour minute =>
      exact ((endsSolid_of_isRun minute).append hours).append [Zone.signOf ahead]

end Element

theorem Layout.not_mem_of_spellAll {elements : List Element} {before after : Fields}
    {text : List Char} {mark : Char} (foreign : Element.isForeign mark = true)
    (others : ∀ element ∈ elements, element ≠ .literal mark)
    (spells : SpellAll elements before after text) : mark ∉ text := by
  induction spells with
  | nil => exact List.not_mem_nil
  | cons first _ inductionHypothesis =>
    rcases List.forall_mem_cons.mp others with ⟨other, others⟩
    rw [List.mem_append, not_or]
    exact ⟨Element.not_mem_of_spells foreign other first, inductionHypothesis others⟩

namespace Form

theorem not_literal_of_foreign (form : Form) {mark : Char}
    (foreign : Element.isForeign mark = true) :
    ∀ element ∈ form.elements, element ≠ .literal mark := by
  have known : ∀ element ∈ form.elements, ∀ char, element = .literal char →
      Element.isForeign char = false := by
    rcases form with ⟨layout⟩ | _
    · cases layout <;> simp [elements, Layout.elements] <;> decide
    · simp [elements, Layout.elements]
      decide
  intro element member same
  rw [known element member mark same] at foreign
  cases foreign

theorem not_mem_of_spells {form : Form} {fields : Fields} {text : List Char} {mark : Char}
    (foreign : Element.isForeign mark = true) (spells : form.Spells fields text) :
    mark ∉ text :=
  Layout.not_mem_of_spellAll foreign (form.not_literal_of_foreign foreign) spells

theorem noComma_of_spells {form : Form} {fields : Fields} {text : List Char}
    (spells : form.Spells fields text) : ',' ∉ text :=
  not_mem_of_spells (by decide) spells

theorem startsSolid_of_spells {form : Form} {fields : Fields} {text : List Char}
    (spells : form.Spells fields text) : StartsSolid text := by
  obtain ⟨element, later, known, dated⟩ : ∃ element later, form.elements = element :: later ∧
      (element = .year ∨ element = .day ∨ element = .weekday) := by
    rcases form with ⟨layout⟩ | _
    · cases layout <;> exact ⟨_, _, rfl, by decide⟩
    · exact ⟨_, _, rfl, by decide⟩
  rw [Spells, known] at spells
  rcases Layout.exists_of_spellAll_cons spells with ⟨_, written, more, rfl, spellsFirst, -⟩
  rcases Element.startsSolid_of_spells dated spellsFirst with ⟨first, rest, rfl, solid⟩
  exact ⟨first, rest ++ more, rfl, solid⟩

/-- The last elements of a form: one of fixed width, perhaps with a fraction behind it. -/
theorem exists_closing (form : Form) : ∃ count element,
    (form.elements.drop count = [element] ∨ form.elements.drop count = [element, .fraction]) ∧
      (element = .year ∨ element = .clock ∨ element = .zone ∨ element = .compactZone) := by
  rcases form with ⟨layout⟩ | _
  · cases layout with
    | internet => exact ⟨8, .zone, by decide, by decide⟩
    | isoLocal | spaceLocal | slashLocal => exact ⟨6, .clock, by decide, by decide⟩
    | accessLog => exact ⟨8, .compactZone, by decide, by decide⟩
    | ctime => exact ⟨8, .year, by decide, by decide⟩
    | unixDate => exact ⟨10, .year, by decide, by decide⟩
    | zonedCtime => exact ⟨11, .year, by decide, by decide⟩
  · exact ⟨8, .compactZone, by decide, by decide⟩

theorem endsSolid_of_spells {form : Form} {fields : Fields} {text : List Char}
    (spells : form.Spells fields text) : EndsSolid text := by
  rcases exists_closing form with ⟨count, element, ending, closed⟩
  rw [Spells, ← List.take_append_drop count form.elements] at spells
  rcases Layout.spellAll_split _ spells with ⟨middle, front, back, rfl, -, spellsBack⟩
  refine EndsSolid.append ?_ front
  rcases ending with ending | ending
  all_goals
    rw [ending] at spellsBack
    rcases Layout.exists_of_spellAll_cons spellsBack with ⟨_, written, _, rfl, spellsLast, rest⟩
    have ends := Element.endsSolid_of_spells closed spellsLast
  · cases rest
    rwa [List.append_nil]
  · rcases Layout.exists_of_spellAll_cons rest with ⟨_, fraction, _, rfl, spellsFraction, last⟩
    cases last
    cases spellsFraction with
    | whole => rwa [List.append_nil, List.append_nil]
    | fraction present all =>
      rw [List.append_nil]
      exact ((endsSolid_of_allDigits present all).append ['.']).append written

end Form

end Timestamp
end ContainerFleet
