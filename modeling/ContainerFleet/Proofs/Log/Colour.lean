import Mathlib.Data.List.Infix
import ContainerFleet.Log.Colour

/-!
# Removing colour sequences

An escape character belongs to a colour sequence only as its beginning.  Going through a
text from the front therefore removes every colour sequence that stands in it, and nothing
else; in particular a text without escape characters is found again, whatever colour
sequences have been put into it.

What is left of a text can hold a colour sequence all the same: removing joins what stood
before a sequence with what stood behind it.  That happens where a colour sequence was
interrupted by others, and nowhere else.
-/

namespace ContainerFleet
namespace Log

/-- An escape character, a bracket, digits and semicolons, and the letter `m`. -/
def IsColour (chars : List Char) : Prop :=
  ∃ codes, codes.all isColourCode = true ∧ chars = escape :: ('[' :: codes ++ ['m'])

/-- A colour sequence stands in the text. -/
def Coloured (text : List Char) : Prop :=
  ∃ sequence, IsColour sequence ∧ sequence <:+: text

/-- The second text is the first with colour sequences put in before, between and behind
its characters. -/
inductive Colours : List Char → List Char → Prop where
  | nothing : Colours [] []
  | char {plain text : List Char} (char : Char) (later : Colours plain text) :
      Colours (char :: plain) (char :: text)
  | sequence {plain text sequence : List Char} (colour : IsColour sequence)
      (later : Colours plain text) : Colours plain (sequence ++ text)

/-- A colour sequence stands in the text with other colour sequences inside. -/
def Interrupted (text : List Char) : Prop :=
  ∃ codes inside, codes.all isColourCode = true ∧ Colours ('[' :: codes) inside ∧
    inside ≠ '[' :: codes ∧ escape :: (inside ++ ['m']) <:+: text

theorem Colours.append {plain text more moreText : List Char} (colours : Colours plain text)
    (coloursMore : Colours more moreText) : Colours (plain ++ more) (text ++ moreText) := by
  induction colours with
  | nothing => exact coloursMore
  | char char _ inductionHypothesis => exact .char char inductionHypothesis
  | sequence colour _ inductionHypothesis =>
    rw [List.append_assoc]
    exact .sequence colour inductionHypothesis

theorem colours_self (text : List Char) : Colours text text := by
  induction text with
  | nil => exact .nothing
  | cons char _ inductionHypothesis => exact .char char inductionHypothesis

theorem escape_not_mem_codes {codes : List Char} (all : codes.all isColourCode = true) :
    escape ∉ '[' :: codes := by
  rw [List.mem_cons, not_or]
  exact ⟨by decide, fun member => absurd (List.all_eq_true.mp all escape member) (by decide)⟩

/-! ## What follows an escape character -/

theorem dropWhile_codes {codes : List Char} (all : codes.all isColourCode = true) {char : Char}
    (other : isColourCode char = false) (rest : List Char) :
    (codes ++ char :: rest).dropWhile isColourCode = char :: rest := by
  rw [List.dropWhile_append_of_pos (List.all_eq_true.mp all),
    List.dropWhile_cons_of_neg (Bool.eq_false_iff.mp other)]

theorem afterColour?_eq_some_iff {chars after : List Char} :
    afterColour? chars = some after ↔
      ∃ codes, codes.all isColourCode = true ∧ chars = '[' :: (codes ++ 'm' :: after) := by
  constructor
  · intro found
    unfold afterColour? at found
    split at found
    · rename_i rest
      split at found
      · rename_i tail dropped
        cases found
        refine ⟨rest.takeWhile isColourCode, List.all_takeWhile, ?_⟩
        rw [← dropped, List.takeWhile_append_dropWhile]
      · cases found
    · cases found
  · rintro ⟨codes, all, rfl⟩
    rw [afterColour?, dropWhile_codes all (by decide)]
    rfl

/-- An escape character ends what could have been a colour sequence. -/
theorem afterColour?_append_escape (chars rest : List Char) :
    afterColour? (chars ++ escape :: rest) =
      (afterColour? chars).map fun after => after ++ escape :: rest := by
  have enough {after : List Char} (found : afterColour? (chars ++ escape :: rest) = some after) :
      ∃ front, after = front ++ escape :: rest ∧ afterColour? chars = some front := by
    rcases afterColour?_eq_some_iff.mp found with ⟨codes, all, shape⟩
    have joined : chars ++ escape :: rest = ('[' :: codes ++ ['m']) ++ after := by simp [shape]
    -- The escape character cannot stand among the characters of the sequence.
    rcases List.append_eq_append_iff.mp joined with
      ⟨within, sequence, escaped⟩ | ⟨front, chars, rfl⟩
    · cases within with
      | nil =>
        rw [List.append_nil] at sequence
        rw [List.nil_append] at escaped
        exact ⟨[], escaped.symm, afterColour?_eq_some_iff.mpr ⟨codes, all, by simp [← sequence]⟩⟩
      | cons char within =>
        have same : escape = char := (List.cons.inj escaped).1
        have member : escape ∈ '[' :: codes ++ ['m'] := by
          rw [sequence, same]
          exact List.mem_append_right _ List.mem_cons_self
        rcases List.mem_append.mp member with inCodes | last
        · exact absurd inCodes (escape_not_mem_codes all)
        · exact absurd (List.mem_singleton.mp last) (by decide)
    · exact ⟨front, rfl, afterColour?_eq_some_iff.mpr ⟨codes, all, by simp [chars]⟩⟩
  cases found : afterColour? (chars ++ escape :: rest) with
  | some after =>
    rcases enough found with ⟨front, rfl, inside⟩
    rw [inside, Option.map_some]
  | none =>
    cases inside : afterColour? chars with
    | none => rfl
    | some front =>
      rcases afterColour?_eq_some_iff.mp inside with ⟨codes, all, rfl⟩
      have whole : afterColour? ('[' :: (codes ++ 'm' :: front) ++ escape :: rest) =
          some (front ++ escape :: rest) :=
        afterColour?_eq_some_iff.mpr ⟨codes, all, by simp⟩
      rw [whole] at found
      cases found

/-! ## Removing -/

theorem removeColoursFrom_nil (kept : List Char) : removeColoursFrom kept [] = kept.reverse := by
  rw [removeColoursFrom]

theorem removeColoursFrom_sequence {sequence : List Char} (colour : IsColour sequence)
    (kept rest : List Char) :
    removeColoursFrom kept (sequence ++ rest) = removeColoursFrom kept rest := by
  rcases colour with ⟨codes, all, rfl⟩
  have found : afterColour? ('[' :: codes ++ ['m'] ++ rest) = some rest :=
    afterColour?_eq_some_iff.mpr ⟨codes, all, by simp⟩
  rw [List.cons_append, removeColoursFrom, if_pos rfl]
  split
  · rename_i after known
    rw [found] at known
    cases known
    rfl
  · rename_i nothing
    rw [found] at nothing
    cases nothing

theorem removeColoursFrom_char {char : Char} {rest : List Char}
    (stays : char = escape → afterColour? rest = none) (kept : List Char) :
    removeColoursFrom kept (char :: rest) = removeColoursFrom (char :: kept) rest := by
  rw [removeColoursFrom]
  split
  · rename_i isEscape
    split
    · rename_i after found
      rw [stays isEscape] at found
      cases found
    · rfl
  · rfl

/-- At the front of a text stands a colour sequence or a character that stays. -/
theorem colour_induction {motive : List Char → Prop} (nothing : motive [])
    (char : ∀ char rest, (char = escape → afterColour? rest = none) → motive rest →
      motive (char :: rest))
    (sequence : ∀ sequence rest, IsColour sequence → motive rest → motive (sequence ++ rest))
    (text : List Char) : motive text := by
  induction size : text.length using Nat.strongRecOn generalizing text with
  | _ length inductionHypothesis =>
  cases text with
  | nil => exact nothing
  | cons first rest =>
    have shorter {less : List Char} (less_rest : less.length ≤ rest.length) : motive less :=
      inductionHypothesis less.length (by rw [← size, List.length_cons]; omega) less rfl
    by_cases isEscape : first = escape
    · cases found : afterColour? rest with
      | none => exact char first rest (fun _ => found) (shorter (Nat.le_refl _))
      | some after =>
        rcases afterColour?_eq_some_iff.mp found with ⟨codes, all, shape⟩
        have whole : first :: rest = escape :: ('[' :: codes ++ ['m']) ++ after := by
          simp [isEscape, shape]
        have fewer : after.length ≤ rest.length := by
          rw [shape, List.length_cons, List.length_append, List.length_cons]
          omega
        rw [whole]
        exact sequence _ after ⟨codes, all, rfl⟩ (shorter fewer)
    · exact char first rest (fun wrong => absurd wrong isEscape) (shorter (Nat.le_refl _))

theorem removeColoursFrom_eq (kept chars : List Char) :
    removeColoursFrom kept chars = kept.reverse ++ removeColours chars := by
  rw [removeColours]
  induction chars using colour_induction generalizing kept with
  | nothing => simp [removeColoursFrom_nil]
  | char char rest stays inductionHypothesis =>
    rw [removeColoursFrom_char stays, removeColoursFrom_char stays, inductionHypothesis,
      inductionHypothesis [char], List.reverse_cons, List.append_assoc]
    rfl
  | sequence sequence rest colour inductionHypothesis =>
    rw [removeColoursFrom_sequence colour, removeColoursFrom_sequence colour, inductionHypothesis]

theorem removeColours_nil : removeColours [] = [] :=
  removeColoursFrom_nil []

theorem removeColours_sequence {sequence : List Char} (colour : IsColour sequence)
    (rest : List Char) : removeColours (sequence ++ rest) = removeColours rest :=
  removeColoursFrom_sequence colour [] rest

theorem removeColours_char {char : Char} {rest : List Char}
    (stays : char = escape → afterColour? rest = none) :
    removeColours (char :: rest) = char :: removeColours rest := by
  rw [removeColours, removeColoursFrom_char stays, removeColoursFrom_eq]
  rfl

/-- Colour sequences that have been put into a text without escape characters are removed
again, whatever follows. -/
theorem removeColours_of_colours {plain text : List Char} (colours : Colours plain text)
    (noEscape : escape ∉ plain) (rest : List Char) :
    removeColours (text ++ rest) = plain ++ removeColours rest := by
  induction colours with
  | nothing => rfl
  | char char _ inductionHypothesis =>
    rw [List.mem_cons, not_or] at noEscape
    rw [List.cons_append, removeColours_char fun same => absurd same.symm noEscape.1,
      inductionHypothesis noEscape.2, List.cons_append]
  | sequence colour _ inductionHypothesis =>
    rw [List.append_assoc, removeColours_sequence colour, inductionHypothesis noEscape]

/-- An escape character divides a text for the removing. -/
theorem removeColours_append_escape (before rest : List Char) :
    removeColours (before ++ escape :: rest) =
      removeColours before ++ removeColours (escape :: rest) := by
  induction before using colour_induction with
  | nothing => rw [removeColours_nil, List.nil_append, List.nil_append]
  | char char more stays inductionHypothesis =>
    have staysThere : char = escape → afterColour? (more ++ escape :: rest) = none := by
      intro isEscape
      rw [afterColour?_append_escape, stays isEscape, Option.map_none]
    rw [List.cons_append, removeColours_char staysThere, inductionHypothesis,
      removeColours_char stays, List.cons_append]
  | sequence sequence more colour inductionHypothesis =>
    rw [List.append_assoc, removeColours_sequence colour, inductionHypothesis,
      removeColours_sequence colour]

theorem length_removeColours_le (text : List Char) :
    (removeColours text).length ≤ text.length := by
  induction text using colour_induction with
  | nothing => rw [removeColours_nil]
  | char char rest stays inductionHypothesis =>
    rw [removeColours_char stays]
    exact Nat.succ_le_succ inductionHypothesis
  | sequence sequence rest colour inductionHypothesis =>
    rw [removeColours_sequence colour, List.length_append]
    omega

theorem removeColours_of_not_coloured {text : List Char} (plain : ¬ Coloured text) :
    removeColours text = text := by
  induction text using colour_induction with
  | nothing => exact removeColours_nil
  | char char rest stays inductionHypothesis =>
    rw [removeColours_char stays, inductionHypothesis]
    rintro ⟨sequence, colour, within⟩
    exact plain ⟨sequence, colour, List.infix_cons within⟩
  | sequence sequence rest colour _ =>
    exact absurd ⟨sequence, colour, (List.prefix_append sequence rest).isInfix⟩ plain

theorem length_removeColours_lt {text : List Char} (coloured : Coloured text) :
    (removeColours text).length < text.length := by
  rcases coloured with ⟨_, ⟨codes, all, rfl⟩, before, after, rfl⟩
  have colour : IsColour (escape :: ('[' :: codes ++ ['m'])) := ⟨codes, all, rfl⟩
  have first := length_removeColours_le before
  have last := length_removeColours_le after
  rw [List.append_assoc, List.cons_append, removeColours_append_escape, ← List.cons_append,
    removeColours_sequence colour, List.length_append, List.length_append, List.length_append,
    List.length_cons]
  omega

/-! ## What is left -/

/-- What is left at the front of a text stands there, with colour sequences put in. -/
theorem exists_colours_of_append {text front back : List Char}
    (left : removeColours text = front ++ back) :
    ∃ coloured rest, text = coloured ++ rest ∧ Colours front coloured ∧
      removeColours rest = back := by
  induction text using colour_induction generalizing front with
  | nothing =>
    rw [removeColours_nil] at left
    rcases List.append_eq_nil_iff.mp left.symm with ⟨rfl, rfl⟩
    exact ⟨[], [], rfl, .nothing, removeColours_nil⟩
  | char char rest stays inductionHypothesis =>
    cases front with
    | nil => exact ⟨[], _, rfl, .nothing, left⟩
    | cons first front =>
      rw [removeColours_char stays, List.cons_append] at left
      rcases List.cons.inj left with ⟨rfl, later⟩
      rcases inductionHypothesis later with ⟨coloured, behind, rfl, colours, known⟩
      exact ⟨char :: coloured, behind, rfl, .char char colours, known⟩
  | sequence sequence rest colour inductionHypothesis =>
    rw [removeColours_sequence colour] at left
    rcases inductionHypothesis left with ⟨coloured, behind, rfl, colours, known⟩
    exact ⟨sequence ++ coloured, behind, (List.append_assoc _ _ _).symm,
      .sequence colour colours, known⟩

/-- A character that is left stays where it stands. -/
theorem exists_char_of_cons {text later : List Char} {char : Char}
    (left : removeColours text = char :: later) :
    ∃ coloured rest, text = coloured ++ char :: rest ∧ Colours [] coloured ∧
      (char = escape → afterColour? rest = none) ∧ removeColours rest = later := by
  induction text using colour_induction with
  | nothing =>
    rw [removeColours_nil] at left
    cases left
  | char first rest stays _ =>
    rw [removeColours_char stays] at left
    rcases List.cons.inj left with ⟨rfl, known⟩
    exact ⟨[], rest, rfl, .nothing, stays, known⟩
  | sequence sequence rest colour inductionHypothesis =>
    rw [removeColours_sequence colour] at left
    rcases inductionHypothesis left with ⟨coloured, behind, rfl, colours, known⟩
    exact ⟨sequence ++ coloured, behind, (List.append_assoc _ _ _).symm,
      .sequence colour colours, known⟩

theorem interrupted_of_coloured {text : List Char} (coloured : Coloured (removeColours text)) :
    Interrupted text := by
  rcases coloured with ⟨_, ⟨codes, all, rfl⟩, before, after, left⟩
  have opening : removeColours text = before ++ (escape :: ('[' :: codes ++ 'm' :: after)) := by
    simp [← left]
  rcases exists_colours_of_append opening with ⟨front, rest, rfl, -, fromEscape⟩
  rcases exists_char_of_cons fromEscape with ⟨ahead, behind, rfl, -, stays, fromBracket⟩
  rcases exists_colours_of_append fromBracket with ⟨inside, rest, rfl, colours, fromLetter⟩
  rcases exists_char_of_cons fromLetter with ⟨last, rest, rfl, coloursLast, -, -⟩
  have colours := colours.append coloursLast
  rw [List.append_nil] at colours
  refine ⟨codes, inside ++ last, all, colours, ?_, front ++ ahead, rest, by simp⟩
  -- An escape character with a whole colour sequence behind it would not have stayed.
  intro whole
  have found : afterColour? (inside ++ (last ++ 'm' :: rest)) = some rest :=
    afterColour?_eq_some_iff.mpr ⟨codes, all, by rw [← List.append_assoc, whole]; rfl⟩
  rw [stays rfl] at found
  cases found

/-- Among the digits and semicolons the first colour sequence that was put in begins. -/
theorem dropWhile_of_colours {codes inside : List Char} (all : codes.all isColourCode = true)
    (colours : Colours codes inside) (put : inside ≠ codes) (rest : List Char) :
    ∃ more, (inside ++ rest).dropWhile isColourCode = escape :: more := by
  induction colours with
  | nothing => exact absurd rfl put
  | char char _ inductionHypothesis =>
    rw [List.all_cons, Bool.and_eq_true] at all
    rw [List.cons_append, List.dropWhile_cons_of_pos all.1]
    exact inductionHypothesis all.2 fun same => put (congrArg (char :: ·) same)
  | sequence colour _ _ =>
    rcases colour with ⟨codes, -, rfl⟩
    exact ⟨_, List.dropWhile_cons_of_neg (by decide)⟩

theorem afterColour?_of_interrupted {codes inside : List Char}
    (all : codes.all isColourCode = true) (colours : Colours ('[' :: codes) inside)
    (put : inside ≠ '[' :: codes) (rest : List Char) : afterColour? (inside ++ rest) = none := by
  cases colours with
  | char _ later =>
    rcases dropWhile_of_colours all later (fun same => put (congrArg ('[' :: ·) same)) rest with
      ⟨more, dropped⟩
    rw [List.cons_append, afterColour?, dropped]
    rfl
  | sequence colour _ =>
    rcases colour with ⟨codes, -, rfl⟩
    rfl

theorem coloured_of_interrupted {text : List Char} (interrupted : Interrupted text) :
    Coloured (removeColours text) := by
  rcases interrupted with ⟨codes, inside, all, colours, put, before, after, rfl⟩
  have stays : escape = escape → afterColour? (inside ++ 'm' :: after) = none := fun _ =>
    afterColour?_of_interrupted all colours put _
  have letter : 'm' = escape → afterColour? after = none := fun wrong => absurd wrong (by decide)
  have shape : before ++ escape :: (inside ++ ['m']) ++ after =
      before ++ escape :: (inside ++ 'm' :: after) := by simp
  refine ⟨_, ⟨codes, all, rfl⟩, removeColours before, removeColours after, ?_⟩
  rw [shape, removeColours_append_escape, removeColours_char stays,
    removeColours_of_colours colours (escape_not_mem_codes all), removeColours_char letter]
  simp

/-- A colour sequence is left where one was interrupted. -/
theorem coloured_removeColours_iff {text : List Char} :
    Coloured (removeColours text) ↔ Interrupted text :=
  ⟨interrupted_of_coloured, coloured_of_interrupted⟩

end Log
end ContainerFleet
