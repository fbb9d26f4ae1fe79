import ContainerFleet.Proofs.Timestamp.Candidate
import Mathlib.Data.Nat.Find

/-!
# The longest beginning

The search among the beginnings of a line takes the longest that denotes a moment.
-/

namespace ContainerFleet
namespace Timestamp

open Digits

/-- A candidate that spells nothing that exists denotes no moment. -/
theorem ofCandidate_of_unspelled {candidate : List Char} (unspelled : spelled? candidate = none) :
    ofCandidate candidate = .ok none := by
  rw [ofCandidate_eq, unspelled]

theorem ofCandidate_of_spelled {candidate : List Char} {fields : Fields}
    (spelled : spelled? candidate = some fields) : ofCandidate candidate = fields.instant := by
  rw [ofCandidate_eq, spelled]

theorem not_overshoots_of_unspelled {candidate : List Char}
    (unspelled : spelled? candidate = none) : ¬ Overshoots candidate := by
  rintro ⟨fields, spelled, -⟩
  rw [unspelled] at spelled
  cases spelled

theorem not_overshoots_of_denoted {candidate : List Char} {instant : Instant}
    (denoted : ofCandidate candidate = .ok (some instant)) : ¬ Overshoots candidate := by
  intro overshoots
  rcases ofCandidate_cases candidate with ⟨-, failed⟩ | ⟨inside, -⟩
  · rw [denoted] at failed
    cases failed
  · exact inside overshoots

/-- Beginnings that spell nothing leave what was found before. -/
theorem foldlM_prefixStep_of_unspelled {line : List Char} {indices : List Nat}
    (unspelled : ∀ index ∈ indices, spelled? (line.take (index + 1)) = none)
    (before : Option (Instant × List Char)) :
    indices.foldlM (prefixStep line) before = .ok before := by
  induction indices with
  | nil => rfl
  | cons index indices inductionHypothesis =>
    rcases List.forall_mem_cons.mp unspelled with ⟨first, others⟩
    have kept : prefixStep line before index = .ok before := by
      rw [prefixStep, ofCandidate_of_unspelled first]
      rfl
    rw [List.foldlM_cons, kept]
    exact inductionHypothesis others

/-- The longest beginning that spells fields that exist is taken, where no shorter one
leaves the calendar. -/
theorem longestPrefix_of_longest {line : List Char} {last : Nat} {instant : Instant}
    (within : last < min line.length searchLength)
    (inside : ∀ index < last, ¬ Overshoots (line.take (index + 1)))
    (denoted : ofCandidate (line.take (last + 1)) = .ok (some instant))
    (longest : ∀ index, last < index → index < min line.length searchLength →
      spelled? (line.take (index + 1)) = none) :
    longestPrefix line = .ok (some (instant, remainder (line.drop (last + 1)))) := by
  obtain ⟨more, count⟩ : ∃ more, min line.length searchLength = last + 1 + more :=
    ⟨_, (Nat.add_sub_cancel' within).symm⟩
  obtain ⟨found, shorter⟩ : ∃ found, (List.range last).foldlM (prefixStep line) none = .ok found := by
    rcases foldlM_prefixStep_cases line (List.range last) none with
      ⟨⟨index, member, overshoots⟩, -⟩ | ⟨-, done⟩
    · exact absurd overshoots (inside index (List.mem_range.mp member))
    · exact done
  have taken : prefixStep line found last =
      .ok (some (instant, remainder (line.drop (last + 1)))) := by
    rw [prefixStep, denoted]
    rfl
  have longer : ∀ index ∈ (List.range more).map fun index => last + 1 + index,
      spelled? (line.take (index + 1)) = none := by
    intro index member
    rcases List.mem_map.mp member with ⟨offset, small, rfl⟩
    have bound := List.mem_range.mp small
    exact longest _ (by omega) (by omega)
  rw [longestPrefix_eq, count, List.range_add, List.range_succ, List.foldlM_append,
    List.foldlM_append, shorter]
  change Except.bind (Except.bind (prefixStep line found last) _) _ = _
  rw [taken]
  exact foldlM_prefixStep_of_unspelled longer _

/-- Where no beginning leaves the calendar, and from one on all that spell anything denote one
moment, the longest of these is taken. -/
theorem exists_longestPrefix_from {line : List Char} {first : Nat} {instant : Instant}
    (within : first < min line.length searchLength)
    (spelled : (spelled? (line.take (first + 1))).isSome = true)
    (inside : ∀ index < min line.length searchLength, ¬ Overshoots (line.take (index + 1)))
    (agree : ∀ index, first ≤ index → index < min line.length searchLength → ∀ fields,
      spelled? (line.take (index + 1)) = some fields → fields.instant = .ok (some instant)) :
    ∃ last, first ≤ last ∧ last < min line.length searchLength ∧
      (spelled? (line.take (last + 1))).isSome = true ∧
        longestPrefix line = .ok (some (instant, remainder (line.drop (last + 1)))) := by
  generalize counted : min line.length searchLength = count at within inside agree
  have most : first ≤ count - 1 := Nat.le_sub_one_of_lt within
  let spells (index : Nat) : Prop := (spelled? (line.take (index + 1))).isSome = true
  have holds : spells (Nat.findGreatest spells (count - 1)) := Nat.findGreatest_spec most spelled
  have above : first ≤ Nat.findGreatest spells (count - 1) := Nat.le_findGreatest most spelled
  have below : Nat.findGreatest spells (count - 1) < count :=
    Nat.lt_of_le_of_lt (Nat.findGreatest_le _) (by omega)
  have greatest : ∀ index, Nat.findGreatest spells (count - 1) < index → index < count →
      ¬ spells index := fun index larger small =>
    Nat.findGreatest_is_greatest larger (Nat.le_sub_one_of_lt small)
  generalize Nat.findGreatest spells (count - 1) = last at holds above below greatest
  have denoted : ofCandidate (line.take (last + 1)) = .ok (some instant) := by
    rcases Option.isSome_iff_exists.mp holds with ⟨fields, spelled⟩
    rw [ofCandidate_of_spelled spelled]
    exact agree last above below fields spelled
  refine ⟨last, above, below, holds, longestPrefix_of_longest (counted ▸ below)
    (fun index smaller => inside index (smaller.trans below)) denoted ?_⟩
  intro index larger small
  exact Option.not_isSome_iff_eq_none.mp (greatest index larger (counted ▸ small))

/-- Where all beginnings that spell anything denote one moment, the longest of them is
taken. -/
theorem exists_longestPrefix {line : List Char} {first : Nat} {instant : Instant}
    (within : first < min line.length searchLength)
    (spelled : (spelled? (line.take (first + 1))).isSome = true)
    (agree : ∀ index < min line.length searchLength, ∀ fields,
      spelled? (line.take (index + 1)) = some fields → fields.instant = .ok (some instant)) :
    ∃ last, first ≤ last ∧ last < min line.length searchLength ∧
      (spelled? (line.take (last + 1))).isSome = true ∧
        longestPrefix line = .ok (some (instant, remainder (line.drop (last + 1)))) := by
  refine exists_longestPrefix_from within spelled ?_ fun index _ => agree index
  intro index small
  cases spelled : spelled? (line.take (index + 1)) with
  | none => exact not_overshoots_of_unspelled spelled
  | some fields =>
    have denoted := agree index small fields spelled
    exact not_overshoots_of_denoted (ofCandidate_of_spelled spelled ▸ denoted)

/-- Where a moment is found among the beginnings, some of them spells something. -/
theorem exists_spelled_of_extractPrefix {line rest : List Char} {instant : Instant}
    (found : extractPrefix line = .ok (some instant, rest)) :
    ∃ count fields, spelled? (line.take count) = some fields := by
  by_contra none_spelled
  have unspelled : ∀ index ∈ List.range (min line.length searchLength),
      spelled? (line.take (index + 1)) = none := by
    intro index _
    rw [Option.eq_none_iff_forall_ne_some]
    exact fun fields spelled => none_spelled ⟨index + 1, fields, spelled⟩
  rw [extractPrefix, longestPrefix_eq, foldlM_prefixStep_of_unspelled unspelled] at found
  cases found

/-! ## Beginnings of a line with a timestamp of fixed width in front -/

theorem spelled?_brackets {opening : List Char} (opens : ∀ char ∈ opening, isBracket char = true) :
    spelled? opening = none := by
  cases spelled : spelled? opening with
  | none => rfl
  | some fields =>
    rw [spelled?_eq_some_iff, undecorated_brackets opens] at spelled
    rcases spelled with ⟨-, form, written, rest, spells, -, shape⟩
    rcases Form.startsSolid_of_spells spells with ⟨first, more, rfl, -⟩
    cases shape

/-- A bare text that begins as a timestamp of fixed width does, and spells anything, is
that timestamp. -/
theorem eq_of_reads {form other : Form} {fields others : Fields} {text rest bare : List Char}
    (closed : form.face = .weekday ∨ form.face = .access) (spells : form.Spells fields text)
    (ends : Ends (· == '\n') rest) (within : bare <+: text ++ rest)
    (reads : other.Reads others (pointFraction bare)) : others = fields ∧ bare = text := by
  have noComma := Form.noComma_of_spells spells
  rcases List.prefix_or_prefix_of_prefix within (List.prefix_append text rest) with
    ⟨missing, shape⟩ | ⟨more, shape⟩
  · have plain : ',' ∉ bare := fun member =>
      noComma (shape ▸ List.mem_append_left missing member)
    rw [pointFraction_of_noComma plain] at reads
    rcases reads with ⟨written, ending, spellsOther, -, rfl⟩
    rw [List.append_assoc] at shape
    rcases Form.spells_unique closed spells spellsOther
      ((List.append_nil text).trans shape.symm) with ⟨-, sameFields, rfl⟩
    refine ⟨sameFields, ?_⟩
    have nothing : ending ++ missing = [] := List.append_right_eq_self.mp shape
    rw [(List.append_eq_nil_iff.mp nothing).1, List.append_nil]
  · rw [← shape, pointFraction_append noComma] at reads
    rcases reads with ⟨written, ending, spellsOther, ended, same⟩
    rcases Form.spells_unique closed spells spellsOther same with ⟨-, sameFields, sameText⟩
    refine ⟨sameFields, ?_⟩
    rw [sameText] at same
    have behind : pointFraction more = ending := List.append_cancel_left same
    rw [← shape] at within ⊢
    cases more with
    | nil => rw [List.append_nil]
    | cons char more =>
      -- Behind the timestamp no line feed follows, but only one could be left over.
      rcases pointFraction_cons char more with ⟨mark, others, pointed, marked⟩
      rcases (List.prefix_append_right_inj text).mp within with ⟨later, rfl⟩
      rw [List.cons_append, ends_cons] at ends
      rw [behind] at pointed
      rw [pointed] at ended
      rcases Layout.atEnd_iff.mp ended with wrong | wrong
      · cases wrong
      · cases wrong
        rcases marked with rfl | wrong
        · cases ends
        · cases wrong

/-- A beginning that spells anything goes past the brackets in front of the line, and
its bare text is a beginning of what follows them. -/
theorem split_of_spelled {opening whole beginning : List Char} {fields : Fields}
    (opens : ∀ char ∈ opening, isBracket char = true) (starts : StartsSolid whole)
    (within : beginning <+: opening ++ whole) (spelled : spelled? beginning = some fields) :
    ∃ body, beginning = opening ++ body ∧ body <+: whole ∧ undecorated beginning <+: body := by
  rcases List.prefix_or_prefix_of_prefix within (List.prefix_append opening _) with
    shorter | ⟨body, rfl⟩
  · have brackets : ∀ char ∈ beginning, isBracket char = true := fun char member =>
      opens char (shorter.subset member)
    rw [spelled?_brackets brackets] at spelled
    cases spelled
  · rw [List.prefix_append_right_inj] at within
    refine ⟨body, rfl, within, ?_⟩
    rcases starts with ⟨first, more, rfl, solid⟩
    cases body with
    | nil =>
      rw [List.append_nil, spelled?_brackets opens] at spelled
      cases spelled
    | cons char body =>
      obtain rfl : char = first := (List.cons_prefix_cons.mp within).1
      rw [undecorated_append opens solid body]
      exact (List.rdropWhile_prefix _ _).trans (List.rdropWhile_prefix _ _)

/-- A beginning of a line that spells anything spells the timestamp of fixed width in
front of the line, and goes on only with what is stripped. -/
theorem eq_of_spelled_beginning {form : Form} {fields others : Fields}
    {opening text rest beginning : List Char}
    (closed : form.face = .weekday ∨ form.face = .access)
    (opens : ∀ char ∈ opening, isBracket char = true) (spells : form.Spells fields text)
    (ends : Ends (· == '\n') rest) (within : beginning <+: opening ++ (text ++ rest))
    (spelled : spelled? beginning = some others) :
    others = fields ∧ ∃ tail, beginning = opening ++ text ++ tail ∧
      (tail.rdropWhile Text.isBlank).rdropWhile isBracket = [] := by
  have starts := Form.startsSolid_of_spells spells
  rcases split_of_spelled opens (starts.append rest) within spelled with
    ⟨body, rfl, inLine, shorter⟩
  rcases spelled?_eq_some_iff.mp spelled with ⟨-, other, reads⟩
  rcases eq_of_reads closed spells ends (shorter.trans inLine) reads with ⟨sameFields, bare⟩
  rw [bare] at shorter
  rcases shorter with ⟨tail, shape⟩
  refine ⟨sameFields, tail, by rw [List.append_assoc, shape], ?_⟩
  have again := undecorated_of_solid opens starts (Form.endsSolid_of_spells spells) tail
  rw [List.append_assoc, shape, bare] at again
  exact List.append_right_eq_self.mp again.symm

end Timestamp
end ContainerFleet
