import ContainerFleet.Proofs.Log.Colour
import ContainerFleet.Proofs.Log.Entry
import ContainerFleet.Proofs.Log.Severity
import ContainerFleet.Proofs.Text.Padding
import ContainerFleet.Proofs.Timestamp.Decoration

/-!
# Cleaned messages

Colours change neither what a message says nor how severe it is: a text without escape
characters is cleaned to the same message, and so to the same level, whatever colour
sequences are put into it, even inside a keyword.

A cleaned message has no blanks at its ends, but it can hold a colour sequence, namely
where one was interrupted by others in the text that was cleaned.  Neither the blanks that
are trimmed nor the timestamp in front of a message hold an escape character, so that this
can be said of the line as it came.
-/

namespace ContainerFleet
namespace Log

open Digits

/-! ## Colour sequences and their surroundings -/

theorem infix_of_append_left {front core later : List Char} {first : Char} (absent : first ∉ front)
    (within : first :: later <:+: front ++ core) : first :: later <:+: core := by
  induction front with
  | nil => exact within
  | cons char front inductionHypothesis =>
    rw [List.mem_cons, not_or] at absent
    rw [List.cons_append, List.infix_cons_iff] at within
    rcases within with here | behind
    · exact absurd (List.cons_prefix_cons.mp here).1 absent.1
    · exact inductionHypothesis absent.2 behind

/-- What begins with a character that is not in front, and ends with one that is not
behind, stands between. -/
theorem infix_surrounded_iff {front core back inside : List Char} {first last : Char}
    (absent : first ∉ front) (absentBehind : last ∉ back) :
    first :: (inside ++ [last]) <:+: front ++ core ++ back ↔
      first :: (inside ++ [last]) <:+: core := by
  constructor
  · intro within
    rw [List.append_assoc] at within
    have fromFront := infix_of_append_left absent within
    rw [← List.reverse_infix, List.reverse_append, ← List.cons_append, List.reverse_append,
      List.reverse_singleton, List.singleton_append] at fromFront
    have reversed := infix_of_append_left (mt List.mem_reverse.mp absentBehind) fromFront
    rw [← List.reverse_infix] at reversed
    simpa using reversed
  · intro within
    exact within.trans ⟨front, back, rfl⟩

variable {front core back text : List Char}

theorem coloured_surrounded_iff (noEscape : escape ∉ front) (noLetter : 'm' ∉ back) :
    Coloured (front ++ core ++ back) ↔ Coloured core := by
  have each {sequence : List Char} (colour : IsColour sequence) :
      sequence <:+: front ++ core ++ back ↔ sequence <:+: core := by
    rcases colour with ⟨codes, -, rfl⟩
    exact infix_surrounded_iff noEscape noLetter
  exact exists_congr fun sequence => and_congr_right each

theorem interrupted_surrounded_iff (noEscape : escape ∉ front) (noLetter : 'm' ∉ back) :
    Interrupted (front ++ core ++ back) ↔ Interrupted core := by
  simp only [Interrupted, infix_surrounded_iff noEscape noLetter]

theorem not_mem_of_allBlank {char : Char} (visible : Text.isBlank char = false)
    (blank : Text.AllBlank text) : char ∉ text := by
  intro member
  rw [blank char member] at visible
  cases visible

theorem coloured_trim_iff : Coloured (Text.trim text) ↔ Coloured text := by
  rcases Text.padded_trim text with ⟨front, back, blankFront, blankBack, shape⟩
  conv_rhs => rw [shape]
  exact (coloured_surrounded_iff (not_mem_of_allBlank (by decide) blankFront)
    (not_mem_of_allBlank (by decide) blankBack)).symm

theorem coloured_cleanMessage_iff : Coloured (cleanMessage text) ↔ Interrupted text :=
  coloured_trim_iff.trans coloured_removeColours_iff

/-! ## Cleaning -/

theorem ends_trim (text : List Char) :
    Ends Text.isBlank (Text.trim text) ∧ Ends Text.isBlank (Text.trim text).reverse := by
  have front (text : List Char) : Ends Text.isBlank (text.dropWhile Text.isBlank) := by
    intro char head
    have passed := List.head?_dropWhile_not Text.isBlank text
    rw [Option.mem_def.mp head] at passed
    exact Bool.eq_false_iff.mpr (by simpa using passed)
  constructor
  · have outer : (text.rdropWhile Text.isBlank).dropWhile Text.isBlank = _ :=
      Text.dropWhile_rdropWhile text
    rw [Text.trim_eq, ← outer]
    exact front _
  · rw [Text.trim_eq, List.rdropWhile, List.reverse_reverse]
    exact front _

theorem cleanMessage_cleanMessage_iff :
    cleanMessage (cleanMessage text) = cleanMessage text ↔ ¬ Interrupted text := by
  rw [← coloured_cleanMessage_iff]
  constructor
  · intro same coloured
    have shorter := length_removeColours_lt coloured
    rcases Text.padded_trim (removeColours (cleanMessage text)) with ⟨front, back, -, -, shape⟩
    have trimmed := congrArg List.length shape
    change Text.trim (removeColours (cleanMessage text)) = _ at same
    rw [same, List.length_append, List.length_append] at trimmed
    omega
  · intro plain
    rw [cleanMessage, removeColours_of_not_coloured plain, cleanMessage, Text.trim_trim]

theorem isWordChar_of_isBlank {char : Char} (blank : Text.isBlank char = true) :
    isWordChar char = false := by
  have low : ∀ code < 0x21, isWordChar (Char.ofNat code) = false := by decide
  have wide : Text.wideBlanks.any isWordChar = false := by decide
  simp only [Text.isBlank, Bool.or_eq_true, Bool.and_eq_true, decide_eq_true_eq,
    List.contains_iff_mem] at blank
  rcases blank with narrow | member
  · have known := low char.toNat (by omega)
    rwa [Char.ofNat_toNat] at known
  · exact Bool.eq_false_iff.mpr (List.any_eq_false.mp wide char member)

theorem detectLevel_trim (text : List Char) : detectLevel (Text.trim text) = detectLevel text := by
  rcases Text.padded_trim text with ⟨front, back, blankFront, blankBack, shape⟩
  refine detectLevel_of_words fun word => ?_
  conv_rhs => rw [shape]
  rw [words_surrounded (fun char member => isWordChar_of_isBlank (blankFront char member))
    fun char member => isWordChar_of_isBlank (blankBack char member)]

/-- A text without escape characters is cleaned to the same message, and found to be as
severe, with and without colour sequences put into it. -/
theorem cleanMessage_of_colours {plain coloured : List Char} (noEscape : escape ∉ plain)
    (colours : Colours plain coloured) :
    cleanMessage coloured = Text.trim plain ∧
      detectLevel (cleanMessage coloured) = detectLevel plain := by
  have removed := removeColours_of_colours colours noEscape []
  rw [List.append_nil, removeColours_nil, List.append_nil] at removed
  have cleaned : cleanMessage coloured = Text.trim plain := by rw [cleanMessage, removed]
  exact ⟨cleaned, by rw [cleaned, detectLevel_trim]⟩

/-- A keyword with a part of it in another colour, beside what looks like a sequence. -/
theorem cleanMessage_two_colours :
    cleanMessage "\x1b[31mER\x1b[0m\x1b[1;4mROR\x1b[m[0m m; ".toList = "ERROR[0m m;".toList ∧
      detectLevel (cleanMessage "\x1b[31mER\x1b[0m\x1b[1;4mROR\x1b[m[0m m; ".toList) =
        detectLevel "ERROR[0m m; ".toList := by
  have colour (codes : List Char) (all : codes.all isColourCode = true) :
      Colours [] (escape :: ('[' :: codes ++ ['m'])) := by
    rw [← List.append_nil (escape :: _)]
    exact .sequence ⟨codes, all, rfl⟩ .nothing
  have last := (colours_self "ROR".toList).append
    ((colour [] rfl).append (colours_self "[0m m; ".toList))
  have first := (colour "31".toList rfl).append (colours_self "ER".toList)
  have between := (colour "0".toList rfl).append (colour "1;4".toList rfl)
  exact cleanMessage_of_colours (by decide) (first.append (between.append last))

/-! ## Entries -/

theorem escape_not_mem_of_decorative (decorative : Timestamp.Decorative text) : escape ∉ text := by
  intro member
  rcases decorative escape member with blank | bracket
  · exact absurd blank (by decide)
  · exact absurd bracket (by decide)

/-- No escape character stands in what is read as a timestamp. -/
theorem escape_not_mem_of_ofCandidate {candidate : List Char} {instant : Instant}
    (denoted : Timestamp.ofCandidate candidate = .ok (some instant)) : escape ∉ candidate := by
  rcases spelled : Timestamp.spelled? candidate with _ | fields
  · rw [Timestamp.ofCandidate_of_unspelled spelled] at denoted
    cases denoted
  rcases Timestamp.exists_undecorated candidate with ⟨before, behind, shape, front, back⟩
  rcases Timestamp.spelled?_eq_some_iff.mp spelled with
    ⟨-, form, written, rest, spells, ended, pointed⟩
  have noneBehind : escape ∉ rest := by
    rcases Timestamp.Layout.atEnd_iff.mp ended with rfl | rfl <;> decide
  have bare : escape ∉ Timestamp.undecorated candidate := by
    intro member
    have kept := Timestamp.mem_pointFraction (by decide) member
    rw [pointed, List.mem_append] at kept
    exact kept.elim (Timestamp.Form.not_mem_of_spells (by decide) spells) noneBehind
  rw [shape]
  simp only [List.mem_append, not_or]
  exact ⟨⟨escape_not_mem_of_decorative front, bare⟩, escape_not_mem_of_decorative back⟩

/-- In front of a message there is no escape character, and behind it there are blanks. -/
theorem exists_around_of_extract {line message : List Char} {found : Option Instant}
    (extracted : Timestamp.extract line = .ok (found, message)) :
    ∃ front back, line = front ++ message ++ back ∧ escape ∉ front ∧ Text.AllBlank back := by
  rcases Text.padded_trim line with ⟨blank, back, allBlank, blankBack, shape⟩
  have noEscape : escape ∉ blank := not_mem_of_allBlank (by decide) allBlank
  rcases Timestamp.cases_of_extract extracted with ⟨-, rfl⟩ |
    ⟨instant, before, candidate, behind, rest, -, trimmed, decorated, decoratedBehind, denoted, rfl⟩
  · exact ⟨blank, back, shape, noEscape, blankBack⟩
  · have suffix : rest <:+ Text.trim line := ⟨_, trimmed.symm⟩
    rcases Timestamp.exists_dropped suffix with ⟨dropped, left, decoratedRest⟩
    refine ⟨blank ++ (before ++ candidate ++ behind ++ dropped), back, ?_, ?_, blankBack⟩
    · conv_lhs => rw [shape, trimmed, left]
      simp only [List.append_assoc]
    · simp only [List.mem_append, not_or]
      exact ⟨noEscape, ⟨⟨escape_not_mem_of_decorative decorated,
        escape_not_mem_of_ofCandidate denoted⟩, escape_not_mem_of_decorative decoratedBehind⟩,
        escape_not_mem_of_decorative decoratedRest⟩

theorem coloured_message_iff {line : String} {output : Output} {entry : Entry}
    (read : Entry.ofLine line output = .ok entry) :
    Coloured entry.message.toList ↔ Interrupted line.toList := by
  rw [Entry.ofLine] at read
  rcases extracted : Timestamp.extract line.toList with _ | ⟨found, rest⟩
  · rw [extracted] at read
    cases read
  · rw [extracted] at read
    cases read
    rcases exists_around_of_extract extracted with ⟨front, back, shape, noEscape, blank⟩
    have noLetter : 'm' ∉ back := not_mem_of_allBlank (by decide) blank
    rw [shape, interrupted_surrounded_iff noEscape noLetter, ← coloured_cleanMessage_iff]
    dsimp only
    rw [String.toList_ofList]

/-- Cleaning leaves no blanks at the ends.  It leaves a colour sequence just where one was
interrupted by others; anywhere else cleaning again changes nothing, and the message of an
entry holds no colour sequence. -/
theorem colourless_unless_interrupted (message : List Char) (line : String) (output : Output) :
    (Ends Text.isBlank (cleanMessage message) ∧
      Ends Text.isBlank (cleanMessage message).reverse) ∧
    (Coloured (cleanMessage message) ↔ Interrupted message) ∧
    (cleanMessage (cleanMessage message) = cleanMessage message ↔ ¬ Interrupted message) ∧
    ∀ entry, Entry.ofLine line output = .ok entry →
      (Coloured entry.message.toList ↔ Interrupted line.toList) :=
  ⟨ends_trim _, coloured_cleanMessage_iff, cleanMessage_cleanMessage_iff,
    fun _ read => coloured_message_iff read⟩

/-- A sequence that stands between the escape character and the bracket of another. -/
def interruptedEntry : String := "\x1b\x1b[0m[0m"

/-- Its parts are joined, and cleaning again would remove them. -/
theorem message_interruptedEntry :
    (∃ entry, Entry.ofLine interruptedEntry .stdout = .ok entry ∧
      entry.message = "\x1b[0m" ∧ Coloured entry.message.toList) ∧
    cleanMessage (cleanMessage interruptedEntry.toList) ≠
      cleanMessage interruptedEntry.toList := by
  have interrupted : Interrupted interruptedEntry.toList :=
    ⟨['0'], "\x1b[0m[0".toList, rfl, .sequence ⟨['0'], rfl, rfl⟩ (colours_self _), by decide,
      [], [], by decide⟩
  have read : Entry.ofLine interruptedEntry .stdout =
      .ok ⟨none, .unknown, "\x1b[0m", .stdout, interruptedEntry⟩ := by
    decide +kernel
  rcases colourless_unless_interrupted interruptedEntry.toList interruptedEntry .stdout with
    ⟨-, -, again, entries⟩
  exact ⟨⟨_, read, rfl, (entries _ read).mpr interrupted⟩, fun same => again.mp same interrupted⟩

end Log
end ContainerFleet
