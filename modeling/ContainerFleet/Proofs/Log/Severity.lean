import Mathlib.Data.List.Basic
import ContainerFleet.Proofs.Log.Words

/-!
# Severity and words

The levels are tried from the most severe on, and each is looked for in the whole message,
so that the level found is the most severe one that a word of the message announces.  It
depends on nothing but the words: not on their order, not on what stands between them, and
on the words of two messages side by side as on those of the more severe one.
-/

namespace ContainerFleet
namespace Log

namespace Level

/-- How severe a level is.  The unknown level is the least. -/
def rank : Level → Nat
  | .unknown => 0
  | .trace => 1
  | .debug => 2
  | .info => 3
  | .warn => 4
  | .error => 5
  | .fatal => 6
  | .panic => 7

/-- The more severe of two levels. -/
def graver (first second : Level) : Level :=
  if first.rank < second.rank then second else first

theorem eq_of_rank {first second : Level} (same : first.rank = second.rank) : first = second := by
  cases first <;> cases second <;> first | rfl | cases same

theorem graver_cases (first second : Level) :
    (first.graver second = first ∧ second.rank ≤ first.rank) ∨
      (first.graver second = second ∧ first.rank ≤ second.rank) := by
  rw [graver]
  by_cases below : first.rank < second.rank
  · exact .inr ⟨if_pos below, Nat.le_of_lt below⟩
  · exact .inl ⟨if_neg below, Nat.le_of_not_lt below⟩

theorem keywords_present (level : Level) : [] ∉ level.keywords := by
  cases level <;> decide

theorem keywords_allWord (level : Level) : ∀ keyword ∈ level.keywords, AllWord keyword := by
  cases level <;> decide

theorem mem_bySeverity {level : Level} (known : level ≠ .unknown) : level ∈ bySeverity := by
  cases level <;> first | decide | exact absurd rfl known

theorem bySeverity_falls : bySeverity.Pairwise fun first second => second.rank < first.rank := by
  decide

end Level

/-- One of the level's keywords is a word of the message, in some letter case. -/
def Announces (message : List Char) (level : Level) : Prop :=
  ∃ word, IsWord word message ∧ word.map Char.toLower ∈ level.keywords

/-- The level is the most severe one that the message announces, or unknown if it announces
none. -/
structure MostSevere (message : List Char) (level : Level) : Prop where
  announced : level = .unknown ∨ Announces message level
  greatest : ∀ other, Announces message other → other.rank ≤ level.rank

variable {message first second : List Char} {level : Level}

theorem announces_iff : Announces message level ↔
    ∃ word ∈ words message, word.map Char.toLower ∈ level.keywords := by
  simp only [Announces, mem_words_iff]

theorem hasWord_keywords :
    hasWord level.keywords false message = true ↔ Announces message level := by
  rw [hasWord_iff level.keywords_present level.keywords_allWord, announces_iff]

theorem not_announces_unknown (message : List Char) : ¬ Announces message .unknown := by
  rintro ⟨word, -, wrong⟩
  cases wrong

theorem mostSevere_detectLevel (message : List Char) :
    MostSevere message (detectLevel message) := by
  rw [detectLevel]
  cases found : Level.bySeverity.find? fun level => hasWord level.keywords false message with
  | none =>
    refine ⟨.inl rfl, fun other announced => ?_⟩
    have known : other ≠ .unknown := by
      rintro rfl
      exact not_announces_unknown message announced
    have passed := List.find?_eq_none.mp found other (Level.mem_bySeverity known)
    exact absurd (hasWord_keywords.mpr announced) passed
  | some level =>
    rcases List.find?_eq_some_iff_append.mp found with ⟨here, before, after, order, passed⟩
    refine ⟨.inr (hasWord_keywords.mp here), fun other announced => ?_⟩
    have known : other ≠ .unknown := by
      rintro rfl
      exact not_announces_unknown message announced
    have member := Level.mem_bySeverity known
    have falls := Level.bySeverity_falls
    rw [order] at member falls
    -- A level that was passed over is not announced, and those not reached are less severe.
    rcases List.mem_append.mp member with early | late
    · have absent := passed other early
      rw [hasWord_keywords.mpr announced] at absent
      cases absent
    · rcases List.mem_cons.mp late with rfl | late
      · exact Nat.le_refl _
      · have below := (List.pairwise_cons.mp (List.pairwise_append.mp falls).2.1).1 other late
        exact Nat.le_of_lt below

theorem MostSevere.unique {other : Level} (severe : MostSevere message level)
    (severeToo : MostSevere message other) : level = other := by
  have rank_le {level other : Level} (severe : MostSevere message level)
      (severeToo : MostSevere message other) : level.rank ≤ other.rank := by
    rcases severe.announced with rfl | announced
    · exact Nat.zero_le _
    · exact severeToo.greatest level announced
  exact Level.eq_of_rank (Nat.le_antisymm (rank_le severe severeToo) (rank_le severeToo severe))

theorem detectLevel_eq_iff : detectLevel message = level ↔ MostSevere message level := by
  constructor
  · rintro rfl
    exact mostSevere_detectLevel message
  · exact (mostSevere_detectLevel message).unique

/-- Messages with the same words have the same level. -/
theorem detectLevel_of_words (same : ∀ word, word ∈ words first ↔ word ∈ words second) :
    detectLevel first = detectLevel second := by
  have announces (level : Level) : Announces first level ↔ Announces second level := by
    simp only [announces_iff, same]
  have severe := mostSevere_detectLevel second
  rw [detectLevel_eq_iff]
  exact ⟨severe.announced.imp_right (announces _).mpr,
    fun other announced => severe.greatest other ((announces other).mp announced)⟩

theorem detectLevel_append_separator (first : List Char) {separator : Char}
    (separates : isWordChar separator = false) (second : List Char) :
    detectLevel (first ++ separator :: second) =
      (detectLevel first).graver (detectLevel second) := by
  have announces (level : Level) : Announces (first ++ separator :: second) level ↔
      Announces first level ∨ Announces second level := by
    simp only [announces_iff, words_append_separator first separates, List.mem_append, or_and_right,
      exists_or]
  have severeFirst := mostSevere_detectLevel first
  have severeSecond := mostSevere_detectLevel second
  rw [detectLevel_eq_iff]
  rcases Level.graver_cases (detectLevel first) (detectLevel second) with
    ⟨chosen, above⟩ | ⟨chosen, above⟩
  all_goals
    rw [chosen]
    refine ⟨?_, fun other announced => ?_⟩
  · exact severeFirst.announced.imp_right fun announced => (announces _).mpr (.inl announced)
  · rcases (announces other).mp announced with inFirst | inSecond
    · exact severeFirst.greatest other inFirst
    · exact Nat.le_trans (severeSecond.greatest other inSecond) above
  · exact severeSecond.announced.imp_right fun announced => (announces _).mpr (.inr announced)
  · rcases (announces other).mp announced with inFirst | inSecond
    · exact Nat.le_trans (severeFirst.greatest other inFirst) above
    · exact severeSecond.greatest other inSecond

/-- Pieces with blanks between them have the words of the pieces. -/
theorem words_intercalate (pieces : List (List Char)) :
    words ([' '].intercalate pieces) = pieces.flatMap words := by
  induction pieces with
  | nil => rfl
  | cons piece later inductionHypothesis =>
    cases later with
    | nil => simp [List.intercalate]
    | cons next later =>
      have joined : [' '].intercalate (piece :: next :: later) =
          piece ++ ' ' :: [' '].intercalate (next :: later) := by
        simp [List.intercalate]
      rw [joined, words_append_separator piece (by decide), inductionHypothesis]
      exact List.flatMap_cons.symm

/-- The level of a message is the most severe one that a word announces, and unknown if
none does.  Of two messages side by side the more severe one counts, and neither the words
of a message nor pieces of it with blanks between them have to stand in any order. -/
theorem level_of_words :
    (∀ message level, detectLevel message = level ↔ MostSevere message level) ∧
    (∀ first second, detectLevel (first ++ ' ' :: second) =
      (detectLevel first).graver (detectLevel second)) ∧
    (∀ first second, (words first).Perm (words second) →
      detectLevel first = detectLevel second) ∧
    ∀ pieces others : List (List Char), pieces.Perm others →
      detectLevel ([' '].intercalate pieces) = detectLevel ([' '].intercalate others) := by
  refine ⟨fun _ _ => detectLevel_eq_iff, fun first second => ?_, fun first second order => ?_,
    fun pieces others order => ?_⟩
  · exact detectLevel_append_separator first (by decide) second
  · exact detectLevel_of_words fun word => order.mem_iff
  · refine detectLevel_of_words fun word => ?_
    rw [words_intercalate, words_intercalate]
    exact (order.flatMap_right words).mem_iff

/-- A word in capitals between brackets, and a longer word that only begins like a keyword. -/
theorem level_of_shuffled_words :
    detectLevel "errors: 3 [FAILED] info".toList = .error ∧
      detectLevel "info 3 [FAILED] errors:".toList = .error ∧
      detectLevel "info;[FAILED](errors 3)".toList = .error := by
  have pieces : ["errors:".toList, "3".toList, "[FAILED]".toList, "info".toList].Perm
      ["info".toList, "3".toList, "[FAILED]".toList, "errors:".toList] := by decide
  have order : (words "errors: 3 [FAILED] info".toList).Perm
      (words "info;[FAILED](errors 3)".toList) := by decide
  have shuffled := level_of_words.2.2.2 _ _ pieces
  have rewritten := level_of_words.2.2.1 _ _ order
  have first : detectLevel "errors: 3 [FAILED] info".toList = .error := by decide
  exact ⟨first, shuffled.symm.trans first, rewritten.symm.trans first⟩

end Log
end ContainerFleet
