import Mathlib.Data.List.TakeWhile
import ContainerFleet.Log.Level
import ContainerFleet.Proofs.Text.Digits

/-!
# Words of a message

A word of a text is a longest stretch of word characters in it.  Everything follows from
two equations: any other character separates the words before it from those behind it, and
word characters alone are one word.  Trying the keywords at every place where a word can
begin therefore finds the words that are keywords, and neither a part of a word nor two
words at once.
-/

namespace ContainerFleet
namespace Log

open Digits

/-- All characters belong to words. -/
def AllWord (chars : List Char) : Prop :=
  ∀ char ∈ chars, isWordChar char = true

instance (chars : List Char) : Decidable (AllWord chars) :=
  decidable_of_iff (chars.all isWordChar = true) List.all_eq_true

/-- A longest stretch of word characters in a text. -/
def IsWord (word text : List Char) : Prop :=
  ∃ before after, text = before ++ word ++ after ∧ word ≠ [] ∧ AllWord word ∧
    Ends isWordChar before.reverse ∧ Ends isWordChar after

/-- The words of a text in their order. -/
def words (text : List Char) : List (List Char) :=
  (text.splitOnP fun char => !isWordChar char).filter (!·.isEmpty)

/-! ## Separators -/

theorem words_append_separator (front : List Char) {separator : Char}
    (separates : isWordChar separator = false) (rest : List Char) :
    words (front ++ separator :: rest) = words front ++ words rest := by
  rw [words, List.splitOnP_append_cons front rest (Bool.not_eq_true' _ |>.mpr separates),
    List.filter_append]
  rfl

theorem words_of_allWord {word : List Char} (all : AllWord word) (present : word ≠ []) :
    words word = [word] := by
  have single : word.splitOnP (fun char => !isWordChar char) = [word] :=
    List.splitOnP_eq_singleton fun char member => by rw [all char member, Bool.not_true]
  rw [words, single]
  exact List.filter_cons_of_pos (by simpa using present)

theorem words_nil : words [] = [] := rfl

theorem words_separator {separator : Char} (separates : isWordChar separator = false)
    (rest : List Char) : words (separator :: rest) = words rest :=
  words_append_separator [] separates rest

/-- Separators in front of a text and behind it make no words. -/
theorem words_surrounded {front back : List Char}
    (before : ∀ char ∈ front, isWordChar char = false)
    (behind : ∀ char ∈ back, isWordChar char = false) (text : List Char) :
    words (front ++ text ++ back) = words text := by
  induction front with
  | cons char front inductionHypothesis =>
    rcases List.forall_mem_cons.mp before with ⟨separates, before⟩
    exact (words_separator separates _).trans (inductionHypothesis before)
  | nil =>
    rw [List.nil_append]
    induction back generalizing text with
    | nil => rw [List.append_nil]
    | cons char back inductionHypothesis =>
      rcases List.forall_mem_cons.mp behind with ⟨separates, behind⟩
      have nothing := inductionHypothesis behind []
      rw [List.nil_append, words_nil] at nothing
      rw [words_append_separator text separates, nothing, List.append_nil]

/-- A text is a word, or nothing, and behind a separator there is more text. -/
theorem word_induction {motive : List Char → Prop} (last : ∀ word, AllWord word → motive word)
    (word : ∀ word separator rest, AllWord word → isWordChar separator = false → motive rest →
      motive (word ++ separator :: rest))
    (text : List Char) : motive text := by
  induction size : text.length using Nat.strongRecOn generalizing text with
  | _ length inductionHypothesis =>
  have front : AllWord (text.takeWhile isWordChar) := fun _ member => List.mem_takeWhile_imp member
  have shape : text.takeWhile isWordChar ++ text.dropWhile isWordChar = text :=
    List.takeWhile_append_dropWhile
  cases behind : text.dropWhile isWordChar with
  | nil =>
    rw [behind, List.append_nil] at shape
    rw [← shape]
    exact last _ front
  | cons separator rest =>
    have present : text.dropWhile isWordChar ≠ [] := behind ▸ List.cons_ne_nil separator rest
    have separates := List.head_dropWhile_not isWordChar present
    simp only [behind, List.head_cons] at separates
    rw [behind] at shape
    rw [← shape] at size ⊢
    refine word _ separator rest front separates (inductionHypothesis rest.length ?_ rest rfl)
    rw [← size, List.length_append, List.length_cons]
    omega

/-! ## The list of words -/

theorem isWord_of_mem_words {word text : List Char} (member : word ∈ words text) :
    IsWord word text := by
  induction text using word_induction with
  | last front all =>
    by_cases present : front = []
    · rw [present] at member
      cases member
    rw [words_of_allWord all present, List.mem_singleton] at member
    rw [member]
    exact ⟨[], [], (List.append_nil front).symm, present, all, ends_nil _, ends_nil _⟩
  | word front separator rest all separates inductionHypothesis =>
    rw [words_append_separator front separates, List.mem_append] at member
    rcases member with inFront | inRest
    · have present : front ≠ [] := by
        rintro rfl
        cases inFront
      rw [words_of_allWord all present, List.mem_singleton] at inFront
      rw [inFront]
      exact ⟨[], separator :: rest, rfl, present, all, ends_nil _, ends_cons.mpr separates⟩
    · rcases inductionHypothesis inRest with ⟨before, after, rfl, present, allWord, starts, ends⟩
      refine ⟨front ++ separator :: before, after, by simp, present, allWord, ?_, ends⟩
      rcases List.eq_nil_or_concat before with rfl | ⟨more, char, rfl⟩
      · simpa [Ends] using separates
      · simpa [Ends] using starts

theorem mem_words_of_isWord {word text : List Char} (isWord : IsWord word text) :
    word ∈ words text := by
  rcases isWord with ⟨before, after, rfl, present, all, starts, ends⟩
  have inWord : word ∈ words (word ++ after) := by
    cases after with
    | nil => rw [List.append_nil, words_of_allWord all present, List.mem_singleton]
    | cons separator after =>
      rw [words_append_separator word (ends_cons.mp ends), words_of_allWord all present]
      exact List.mem_cons_self
  rcases List.eq_nil_or_concat before with rfl | ⟨more, separator, rfl⟩
  · exact inWord
  · rw [List.concat_eq_append, List.reverse_append, List.reverse_singleton, List.singleton_append,
      ends_cons] at starts
    rw [List.concat_eq_append, List.append_assoc, List.append_assoc, List.singleton_append,
      words_append_separator more starts]
    exact List.mem_append_right _ inWord

theorem mem_words_iff {word text : List Char} : word ∈ words text ↔ IsWord word text :=
  ⟨isWord_of_mem_words, mem_words_of_isWord⟩

/-! ## Keywords -/

/-- Letter case does not make a word character of another. -/
theorem isWordChar_of_toLower {char : Char} (lower : isWordChar char.toLower = true) :
    isWordChar char = true := by
  by_cases upper : char.isUpper = true
  · have letter : char.isAlphanum = (char.isUpper || char.isLower || char.isDigit) := rfl
    rw [isWordChar, letter, upper]
    rfl
  · have same : char.toLower = char := dif_neg fun capital => upper (decide_eq_true capital)
    rwa [same] at lower

/-- A word in front of a text is a keyword, in some letter case, or none begins there. -/
theorem startsWithWord_iff {keyword word rest : List Char} (plain : AllWord keyword)
    (all : AllWord word) (ends : Ends isWordChar rest) :
    startsWithWord keyword (word ++ rest) = true ↔ word.map Char.toLower = keyword := by
  induction keyword generalizing word with
  | nil =>
    cases word with
    | nil =>
      cases rest with
      | nil => simp [startsWithWord]
      | cons char rest => simpa [startsWithWord] using ends_cons.mp ends
    | cons char word => simp [startsWithWord, all char List.mem_cons_self]
  | cons letter keyword inductionHypothesis =>
    rcases List.forall_mem_cons.mp plain with ⟨isLetter, plain⟩
    cases word with
    | nil =>
      cases rest with
      | nil => simp [startsWithWord]
      | cons char rest =>
        have other : char.toLower ≠ letter := by
          rintro rfl
          have wordChar := isWordChar_of_toLower isLetter
          rw [ends_cons.mp ends] at wordChar
          cases wordChar
        simp [startsWithWord, other]
    | cons char word =>
      rcases List.forall_mem_cons.mp all with ⟨-, all⟩
      simp [startsWithWord, inductionHypothesis plain all]

variable {keywords : List (List Char)}

theorem hasWord_separator (present : [] ∉ keywords) (plain : ∀ keyword ∈ keywords, AllWord keyword)
    {separator : Char} (separates : isWordChar separator = false) (inWord : Bool)
    (rest : List Char) :
    hasWord keywords inWord (separator :: rest) = hasWord keywords false rest := by
  have none_here : (keywords.any fun keyword => startsWithWord keyword (separator :: rest)) =
      false := by
    rw [List.any_eq_false]
    intro keyword member starts
    have empty := (startsWithWord_iff (plain keyword member) (List.forall_mem_nil _)
      (ends_cons.mpr separates)).mp starts
    rw [List.map_nil] at empty
    exact present (empty ▸ member)
  rw [hasWord, none_here, separates]
  simp

/-- Inside a word no keyword begins. -/
theorem hasWord_inside {word : List Char} (all : AllWord word) (rest : List Char) :
    hasWord keywords true (word ++ rest) = hasWord keywords true rest := by
  induction word with
  | nil => rfl
  | cons char word inductionHypothesis =>
    rcases List.forall_mem_cons.mp all with ⟨wordChar, all⟩
    rw [List.cons_append, hasWord, wordChar]
    exact inductionHypothesis all

theorem hasWord_word (plain : ∀ keyword ∈ keywords, AllWord keyword) {word rest : List Char}
    (all : AllWord word) (present : word ≠ []) (ends : Ends isWordChar rest) :
    hasWord keywords false (word ++ rest) = true ↔
      word.map Char.toLower ∈ keywords ∨ hasWord keywords true rest = true := by
  have starts : (keywords.any fun keyword => startsWithWord keyword (word ++ rest)) = true ↔
      word.map Char.toLower ∈ keywords := by
    rw [List.any_eq_true]
    constructor
    · rintro ⟨keyword, member, starts⟩
      rwa [(startsWithWord_iff (plain keyword member) all ends).mp starts]
    · intro member
      exact ⟨_, member, (startsWithWord_iff (plain _ member) all ends).mpr rfl⟩
  cases word with
  | nil => exact absurd rfl present
  | cons char word =>
    rcases List.forall_mem_cons.mp all with ⟨wordChar, later⟩
    rw [List.cons_append] at starts ⊢
    rw [hasWord, wordChar, hasWord_inside later, ← starts]
    simp

/-- The keywords that are found are words of the text, in some letter case. -/
theorem hasWord_iff (present : [] ∉ keywords) (plain : ∀ keyword ∈ keywords, AllWord keyword)
    (text : List Char) : hasWord keywords false text = true ↔
      ∃ word ∈ words text, word.map Char.toLower ∈ keywords := by
  induction text using word_induction with
  | last word all =>
    by_cases empty : word = []
    · simp [empty, hasWord, words_nil]
    have whole := hasWord_word plain all empty (ends_nil isWordChar)
    rw [List.append_nil] at whole
    rw [whole, words_of_allWord all empty]
    simp [hasWord]
  | word word separator rest all separates inductionHypothesis =>
    rw [words_append_separator word separates]
    by_cases empty : word = []
    · rw [empty, List.nil_append, hasWord_separator present plain separates, inductionHypothesis,
        words_nil, List.nil_append]
    rw [hasWord_word plain all empty (ends_cons.mpr separates),
      hasWord_separator present plain separates, inductionHypothesis, words_of_allWord all empty]
    simp

end Log
end ContainerFleet
