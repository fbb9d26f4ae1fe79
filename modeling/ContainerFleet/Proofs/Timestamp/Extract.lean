import ContainerFleet.Proofs.Timestamp.Fields
import ContainerFleet.Timestamp.Extract

/-!
# Where the search for a timestamp fails

A candidate spells fields in one of the layouts, or in the interchange form once
its zone has a colon.  Fields that do not exist are passed over.  Those that do
settle the candidate, and only they can make it fail: by a zone that carries
them out of the calendar.  A line fails with the first such candidate that its
search comes to.
-/

namespace ContainerFleet
namespace Timestamp

/-- The fields of a text in the first of `layouts` that spells some that exist. -/
def Layout.existing? (layouts : List Layout) (text : List Char) : Option Fields :=
  layouts.findSome? fun layout => (layout.fields? text).filter (·.Exist)

/-- The fields that exist and that a candidate spells. -/
def spelled? (candidate : List Char) : Option Fields :=
  let text := pointFraction (undecorated candidate)
  (Layout.existing? Layout.all text).or ((colonZone? text).bind (Layout.existing? [.internet]))

/-- The candidate spells a moment outside the calendar. -/
def Overshoots (candidate : List Char) : Prop :=
  ∃ fields, spelled? candidate = some fields ∧ fields.Overshoots

/-- The beginnings of a line that are searched. -/
def beginnings (line : List Char) : List (List Char) :=
  (List.range (min line.length searchLength)).map fun index => line.take (index + 1)

/-- The candidates on which the search of a line depends: its ISO-like front
where that spells fields that exist, and the beginnings of the line where not. -/
def candidates (line : List Char) : List (List Char) :=
  match isoFront? line with
  | some (front, _) => if (spelled? front).isSome then [front] else beginnings line
  | none => beginnings line

/-- The search of a line comes to a moment outside the calendar. -/
def LeavesCalendar (line : List Char) : Prop :=
  ∃ candidate ∈ candidates (Text.trim line), Overshoots candidate

namespace Layout

theorem exist_of_existing? {layouts : List Layout} {text : List Char} {fields : Fields}
    (found : existing? layouts text = some fields) : fields.Exist := by
  rcases List.exists_of_findSome?_eq_some found with ⟨layout, -, kept⟩
  rcases Option.filter_eq_some_iff.mp kept with ⟨-, exist⟩
  exact of_decide_eq_true exist

/-- The moment of a text is that of the first fields that exist. -/
theorem firstInstant_eq (layouts : List Layout) (text : List Char) :
    firstInstant layouts text =
      match existing? layouts text with
      | some fields => fields.instant
      | none => .ok none := by
  induction layouts with
  | nil => rfl
  | cons layout later inductionHypothesis =>
    rw [firstInstant, existing?, List.findSome?_cons, ← existing?]
    cases spelled : layout.fields? text with
    | none => exact inductionHypothesis
    | some fields =>
      by_cases exist : fields.Exist
      · rw [Option.filter_some, if_pos (decide_eq_true exist)]
        by_cases outside : fields.Overshoots
        · dsimp only
          rw [(Fields.instant_of_exist exist).1 outside]
          rfl
        · rcases (Fields.instant_of_exist exist).2 outside with ⟨instant, denoted⟩
          dsimp only
          rw [denoted]
          rfl
      · have passed : fields.instant = .ok none := if_neg exist
        rw [Option.filter_some, if_neg (by simpa using exist)]
        dsimp only
        rw [passed]
        exact inductionHypothesis

end Layout

theorem exist_of_spelled? {candidate : List Char} {fields : Fields}
    (found : spelled? candidate = some fields) : fields.Exist := by
  rcases Option.or_eq_some_iff.mp found with found | ⟨-, found⟩
  · exact Layout.exist_of_existing? found
  · rcases Option.bind_eq_some_iff.mp found with ⟨withColon, -, found⟩
    exact Layout.exist_of_existing? found

theorem existing?_nil : Layout.existing? Layout.all [] = none := by
  decide

/-- A candidate denotes the moment of the fields that it spells. -/
theorem ofCandidate_eq (candidate : List Char) :
    ofCandidate candidate =
      match spelled? candidate with
      | some fields => fields.instant
      | none => .ok none := by
  rw [ofCandidate, spelled?]
  cases bare : undecorated candidate with
  | nil =>
    have nothing : pointFraction [] = [] := rfl
    rw [nothing, existing?_nil]
    rfl
  | cons char chars =>
    simp only [List.isEmpty_cons, Bool.false_eq_true, if_false, Layout.firstInstant_eq]
    cases found : Layout.existing? Layout.all (pointFraction (char :: chars)) with
    | some fields =>
      have exist := Layout.exist_of_existing? found
      rw [Option.some_or]
      dsimp only
      by_cases outside : fields.Overshoots
      · rw [(Fields.instant_of_exist exist).1 outside]
        rfl
      · rcases (Fields.instant_of_exist exist).2 outside with ⟨instant, denoted⟩
        rw [denoted]
        rfl
    | none =>
      rw [Option.none_or]
      cases colonZone? (pointFraction (char :: chars)) <;> rfl

/-- A candidate fails just if it overshoots; else it spells nothing that exists
or denotes a moment. -/
theorem ofCandidate_cases (candidate : List Char) :
    (Overshoots candidate ∧ ofCandidate candidate = .error .date) ∨
      (¬ Overshoots candidate ∧ ∃ moment, ofCandidate candidate = .ok moment ∧
        moment.isSome = (spelled? candidate).isSome) := by
  rw [ofCandidate_eq, Overshoots]
  cases spelled : spelled? candidate with
  | none =>
    refine .inr ⟨?_, none, rfl, rfl⟩
    rintro ⟨fields, wrong, -⟩
    cases wrong
  | some fields =>
    have exist := exist_of_spelled? spelled
    by_cases outside : fields.Overshoots
    · exact .inl ⟨⟨fields, rfl, outside⟩, (Fields.instant_of_exist exist).1 outside⟩
    · rcases (Fields.instant_of_exist exist).2 outside with ⟨instant, denoted⟩
      refine .inr ⟨?_, some instant, denoted, rfl⟩
      rintro ⟨other, same, otherOutside⟩
      cases same
      exact outside otherOutside

/-- One step of `longestPrefix`: the beginning that ends at `index` replaces
what was found before it. -/
def prefixStep (line : List Char) (found : Option (Instant × List Char)) (index : Nat) :
    Except RangeError (Option (Instant × List Char)) := do
  match ← ofCandidate (line.take (index + 1)) with
  | some instant => return some (instant, remainder (line.drop (index + 1)))
  | none => return found

theorem prefixStep_cases (line : List Char) (found : Option (Instant × List Char)) (index : Nat) :
    (Overshoots (line.take (index + 1)) ∧ prefixStep line found index = .error .date) ∨
      (¬ Overshoots (line.take (index + 1)) ∧ ∃ next, prefixStep line found index = .ok next) := by
  rw [prefixStep]
  rcases ofCandidate_cases (line.take (index + 1)) with
    ⟨overshoots, failed⟩ | ⟨inside, moment, read, -⟩
  · refine .inl ⟨overshoots, ?_⟩
    rw [failed]
    rfl
  · refine .inr ⟨inside, ?_⟩
    rw [read]
    cases moment <;> exact ⟨_, rfl⟩

/-- A search among some beginnings of a line fails just if one of them overshoots,
whatever has been found before. -/
theorem foldlM_prefixStep_cases (line : List Char) (indices : List Nat)
    (before : Option (Instant × List Char)) :
    ((∃ index ∈ indices, Overshoots (line.take (index + 1))) ∧
      indices.foldlM (prefixStep line) before = .error .date) ∨
    ((¬ ∃ index ∈ indices, Overshoots (line.take (index + 1))) ∧
      ∃ found, indices.foldlM (prefixStep line) before = .ok found) := by
  induction indices generalizing before with
  | nil => exact .inr ⟨by simp, before, rfl⟩
  | cons index indices inductionHypothesis =>
    rw [List.foldlM_cons]
    rcases prefixStep_cases line before index with ⟨overshoots, failed⟩ | ⟨inside, next, stepped⟩
    · refine .inl ⟨⟨index, List.mem_cons_self, overshoots⟩, ?_⟩
      rw [failed]
      rfl
    · rw [stepped]
      rcases inductionHypothesis next with
        ⟨⟨other, member, overshoots⟩, failed⟩ | ⟨others_inside, done⟩
      · exact .inl ⟨⟨other, List.mem_cons_of_mem _ member, overshoots⟩, failed⟩
      · refine .inr ⟨?_, done⟩
        rintro ⟨other, member, overshoots⟩
        rcases List.mem_cons.mp member with rfl | member
        · exact inside overshoots
        · exact others_inside ⟨other, member, overshoots⟩

theorem longestPrefix_eq (line : List Char) :
    longestPrefix line =
      (List.range (min line.length searchLength)).foldlM (prefixStep line) none := rfl

/-- The search among the beginnings of a line fails just if one overshoots. -/
theorem longestPrefix_cases (line : List Char) :
    ((∃ candidate ∈ beginnings line, Overshoots candidate) ∧
      longestPrefix line = .error .date) ∨
    ((¬ ∃ candidate ∈ beginnings line, Overshoots candidate) ∧
      ∃ found, longestPrefix line = .ok found) := by
  have indexed : (∃ candidate ∈ beginnings line, Overshoots candidate) ↔
      ∃ index ∈ List.range (min line.length searchLength), Overshoots (line.take (index + 1)) := by
    rw [beginnings]
    constructor
    · rintro ⟨candidate, member, overshoots⟩
      rcases List.mem_map.mp member with ⟨index, indexed, rfl⟩
      exact ⟨index, indexed, overshoots⟩
    · rintro ⟨index, indexed, overshoots⟩
      exact ⟨_, List.mem_map_of_mem indexed, overshoots⟩
  rw [indexed, longestPrefix_eq]
  exact foldlM_prefixStep_cases line _ none

/-- The search among the beginnings, with the line itself where it finds nothing. -/
def extractPrefix (line : List Char) : Except RangeError (Option Instant × List Char) := do
  match ← longestPrefix line with
  | some (instant, rest) => return (some instant, rest)
  | none => return (none, line)

/-- The search of a line that is not empty: its ISO-like front, where that is a
timestamp, and else its beginnings. -/
theorem extract_of_trimmed {line : List Char} (present : Text.trim line ≠ []) :
    extract line =
      match isoFront? (Text.trim line) with
      | some (front, rest) =>
        match ofCandidate front with
        | .error error => .error error
        | .ok (some instant) => .ok (some instant, remainder rest)
        | .ok none => extractPrefix (Text.trim line)
      | none => extractPrefix (Text.trim line) := by
  rw [extract]
  generalize Text.trim line = line at present
  have filled : line.isEmpty = false := List.isEmpty_eq_false_iff.mpr present
  simp only [filled, Bool.false_eq_true, if_false, bind, Except.bind, pure, Except.pure,
    extractPrefix]
  cases isoFront? line with
  | none => rfl
  | some parts =>
    dsimp only
    cases ofCandidate parts.1 with
    | error error => rfl
    | ok moment => cases moment <;> rfl

theorem extractPrefix_cases (line : List Char) :
    ((∃ candidate ∈ beginnings line, Overshoots candidate) ∧
      extractPrefix line = .error .date) ∨
    ((¬ ∃ candidate ∈ beginnings line, Overshoots candidate) ∧
      ∃ found, extractPrefix line = .ok found) := by
  rw [extractPrefix]
  rcases longestPrefix_cases line with ⟨overshoots, failed⟩ | ⟨inside, found, done⟩
  · refine .inl ⟨overshoots, ?_⟩
    rw [failed]
    rfl
  · refine .inr ⟨inside, ?_⟩
    rw [done]
    cases found <;> exact ⟨_, rfl⟩

/-- A line fails just if its search leaves the calendar. -/
theorem extract_cases (line : List Char) :
    (LeavesCalendar line ∧ extract line = .error .date) ∨
      (¬ LeavesCalendar line ∧ ∃ found, extract line = .ok found) := by
  rw [LeavesCalendar]
  by_cases empty : Text.trim line = []
  · have nothing : candidates [] = [] := rfl
    have found : extract line = .ok (none, []) := by
      rw [extract, empty]
      rfl
    rw [empty, nothing]
    refine .inr ⟨?_, _, found⟩
    rintro ⟨candidate, member, -⟩
    cases member
  · rw [extract_of_trimmed empty, candidates]
    generalize Text.trim line = line
    cases isoFront? line with
    | none => exact extractPrefix_cases line
    | some parts =>
      rcases parts with ⟨front, rest⟩
      dsimp only
      rcases ofCandidate_cases front with ⟨overshoots, failed⟩ | ⟨inside, moment, read, spells⟩
      · have spells : (spelled? front).isSome = true := by
          rcases overshoots with ⟨fields, spelled, -⟩
          rw [spelled, Option.isSome_some]
        rw [spells, failed]
        exact .inl ⟨⟨front, List.mem_singleton_self front, overshoots⟩, rfl⟩
      · rw [read, ← spells]
        cases moment with
        | none => exact extractPrefix_cases line
        | some instant =>
          refine .inr ⟨?_, _, rfl⟩
          rintro ⟨candidate, member, overshoots⟩
          rw [Option.isSome_some, if_pos rfl, List.mem_singleton] at member
          exact inside (member ▸ overshoots)

end Timestamp
end ContainerFleet
