import ContainerFleet.Text.Blank
import Mathlib.Data.List.DropRight
import Mathlib.Data.List.TakeWhile

/-!
# Trimming

Characters are dropped at the front up to the first that stays, and at the back up to
the last that stays.  A text whose first and last character stay is not touched, and
what stands between two such texts is out of reach.
-/

namespace ContainerFleet
namespace Text

variable {drop : Char → Bool}

theorem stripBoth_eq (chars : List Char) :
    stripBoth drop chars = (chars.dropWhile drop).rdropWhile drop := rfl

theorem dropWhile_all {chars : List Char} (all : ∀ char ∈ chars, drop char = true)
    (rest : List Char) : (chars ++ rest).dropWhile drop = rest.dropWhile drop :=
  List.dropWhile_append_of_pos all

/-- What stands behind a character that stays cannot change what is in front of it. -/
theorem rdropWhile_append (front : List Char) {last : Char} (stays : drop last = false)
    (rest : List Char) :
    (front ++ last :: rest).rdropWhile drop = front ++ last :: rest.rdropWhile drop := by
  induction rest using List.reverseRecOn with
  | nil =>
    rw [List.rdropWhile_nil]
    exact List.rdropWhile_concat_neg drop front last (Bool.not_eq_true _ ▸ stays)
  | append_singleton rest char inductionHypothesis =>
    have regrouped : front ++ last :: (rest ++ [char]) = (front ++ last :: rest) ++ [char] := by
      rw [List.append_assoc, List.cons_append]
    rw [regrouped, List.rdropWhile_concat, List.rdropWhile_concat]
    cases drop char with
    | false => rw [if_neg Bool.false_ne_true, if_neg Bool.false_ne_true, regrouped]
    | true => rw [if_pos rfl, if_pos rfl, inductionHypothesis]

/-- What stands in front of a character that stays cannot change what is behind it. -/
theorem dropWhile_append (front : List Char) {first : Char} (stays : drop first = false)
    (rest : List Char) :
    (front ++ first :: rest).dropWhile drop = front.dropWhile drop ++ first :: rest := by
  rw [List.dropWhile_append]
  split
  · rename_i empty
    rw [List.isEmpty_iff.mp empty, List.nil_append,
      List.dropWhile_cons_of_neg (Bool.eq_false_iff.mp stays)]
  · rfl

/-- The two ends can be stripped in any order. -/
theorem dropWhile_rdropWhile (chars : List Char) :
    (chars.rdropWhile drop).dropWhile drop = (chars.dropWhile drop).rdropWhile drop := by
  by_cases all : ∀ char ∈ chars, drop char = true
  · rw [List.rdropWhile_eq_nil_iff.mpr all, List.dropWhile_eq_nil_iff.mpr all]
    rfl
  · simp only [not_forall, Bool.not_eq_true] at all
    rcases all with ⟨char, member, stays⟩
    rcases List.append_of_mem member with ⟨front, rest, rfl⟩
    rw [rdropWhile_append front stays, dropWhile_append front stays,
      dropWhile_append front stays, rdropWhile_append _ stays]

theorem stripBoth_rdropWhile (chars : List Char) :
    stripBoth drop (chars.rdropWhile drop) = stripBoth drop chars := by
  rw [stripBoth_eq, stripBoth_eq, dropWhile_rdropWhile, List.rdropWhile_idempotent]

theorem stripBoth_append_left {front : List Char} (all : ∀ char ∈ front, drop char = true)
    (rest : List Char) : stripBoth drop (front ++ rest) = stripBoth drop rest := by
  rw [stripBoth_eq, stripBoth_eq, dropWhile_all all]

/-- Behind a text whose ends stay, only the end of what follows is stripped. -/
theorem stripBoth_append {text more front : List Char} {first last : Char}
    (starts : text = first :: more) (ends : text = front ++ [last]) (firstStays : drop first = false)
    (lastStays : drop last = false) (rest : List Char) :
    stripBoth drop (text ++ rest) = text ++ rest.rdropWhile drop := by
  have kept : (text ++ rest).dropWhile drop = text ++ rest := by
    rw [starts, List.cons_append, List.dropWhile_cons_of_neg (Bool.eq_false_iff.mp firstStays)]
  rw [stripBoth_eq, kept, ends, List.append_assoc, List.append_assoc, List.singleton_append,
    List.singleton_append, rdropWhile_append front lastStays]

end Text
end ContainerFleet
