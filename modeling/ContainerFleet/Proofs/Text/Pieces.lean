import ContainerFleet.Text.Split
import Mathlib.Data.List.TakeWhile

/-!
# Pieces of a text

Pieces that are put together with separators between them are found again.  What stands
before and after the first occurrence of a character, if there is one, makes up the text.
-/

namespace ContainerFleet
namespace Text

variable {separator : Char}

theorem splitAt_eq_splitOn (separator : Char) (chars : List Char) :
    splitAt separator chars = chars.splitOn separator := by
  induction chars with
  | nil => rfl
  | cons char rest inductionHypothesis =>
    unfold List.splitOn at inductionHypothesis ⊢
    rw [splitAt, inductionHypothesis, List.splitOnP_cons_eq_if_modifyHead]
    cases pieces : rest.splitOnP (· == separator) with
    | nil => exact absurd pieces (List.splitOnP_ne_nil _ rest)
    | cons piece later => simp

/-- Pieces without separators are found again between separators. -/
theorem splitAt_intercalate {pieces : List (List Char)} (some_piece : pieces ≠ [])
    (plain : ∀ piece ∈ pieces, separator ∉ piece) :
    splitAt separator (List.intercalate [separator] pieces) = pieces := by
  rw [splitAt_eq_splitOn]
  exact List.splitOn_intercalate separator plain some_piece

theorem not_mem_of_mem_splitAt {piece chars : List Char}
    (member : piece ∈ splitAt separator chars) : separator ∉ piece := by
  induction chars generalizing piece with
  | nil => simp_all [splitAt]
  | cons char rest inductionHypothesis =>
    rw [splitAt] at member
    cases pieces : splitAt separator rest with
    | nil => exact absurd pieces (splitAt_ne_nil separator rest)
    | cons first later =>
      rw [pieces] at member inductionHypothesis
      dsimp only at member
      split at member
      · rcases List.mem_cons.mp member with rfl | inRest
        · exact List.not_mem_nil
        · exact inductionHypothesis inRest
      · rename_i different
        rcases List.mem_cons.mp member with rfl | inLater
        · have absent := inductionHypothesis List.mem_cons_self
          simp [Ne.symm different, absent]
        · exact inductionHypothesis (List.mem_cons_of_mem _ inLater)

/-! ## The first occurrence -/

theorem cutAt?_of_split {before : List Char} (absent : separator ∉ before) (after : List Char) :
    cutAt? separator (before ++ separator :: after) = some (before, after) := by
  have passed : ∀ char ∈ before, decide (char ≠ separator) = true :=
    fun char member => decide_eq_true fun same => absent (same ▸ member)
  rw [cutAt?, List.dropWhile_append_of_pos passed, List.takeWhile_append_of_pos passed]
  simp

theorem cutAt?_eq_none_iff {chars : List Char} :
    cutAt? separator chars = none ↔ separator ∉ chars := by
  constructor
  · intro uncut member
    rcases List.eq_append_cons_of_mem member with ⟨before, after, rfl, absent⟩
    rw [cutAt?_of_split absent] at uncut
    cases uncut
  · intro absent
    have dropped : chars.dropWhile (· ≠ separator) = [] := by
      rw [List.dropWhile_eq_nil_iff]
      intro char member
      exact decide_eq_true fun same => absent (same ▸ member)
    rw [cutAt?, dropped]

theorem split_of_cutAt? {chars before after : List Char}
    (cut : cutAt? separator chars = some (before, after)) :
    chars = before ++ separator :: after ∧ separator ∉ before := by
  by_cases member : separator ∈ chars
  · rcases List.eq_append_cons_of_mem member with ⟨front, back, rfl, absent⟩
    rw [cutAt?_of_split absent] at cut
    cases cut
    exact ⟨rfl, absent⟩
  · rw [cutAt?_eq_none_iff.mpr member] at cut
    cases cut

end Text
end ContainerFleet
