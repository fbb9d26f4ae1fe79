import ContainerFleet.Log.Entry
import ContainerFleet.Proofs.Timestamp.Extract

/-!
# Reading a line

A line is read into an entry that keeps it as it came.  Level and message are
found for any text; only the search for a timestamp can fail.
-/

namespace ContainerFleet
namespace Log
namespace Entry

/-- A line gives an entry of its own, unless its search for a timestamp leaves
the calendar. -/
theorem ofLine_cases (line : String) (output : Output) :
    (Timestamp.LeavesCalendar line.toList ∧ ofLine line output = .error .date) ∨
      (¬ Timestamp.LeavesCalendar line.toList ∧
        ∃ entry, ofLine line output = .ok entry ∧ entry.raw = line ∧ entry.output = output) := by
  rw [ofLine]
  rcases Timestamp.extract_cases line.toList with ⟨leaves, failed⟩ | ⟨stays, found, extracted⟩
  · refine .inl ⟨leaves, ?_⟩
    rw [failed]
    rfl
  · refine .inr ⟨stays, ?_⟩
    rw [extracted]
    exact ⟨_, rfl, rfl, rfl⟩

theorem of_ofLine {line : String} {output : Output} {entry : Entry}
    (read : ofLine line output = .ok entry) : entry.raw = line ∧ entry.output = output := by
  rcases ofLine_cases line output with ⟨-, failed⟩ | ⟨-, other, found, kept⟩
  · rw [read] at failed
    cases failed
  · rw [read] at found
    cases found
    exact kept

theorem error_of_ofLine {line : String} {output : Output} {error : RangeError}
    (failed : ofLine line output = .error error) : error = .date := by
  rcases ofLine_cases line output with ⟨-, date⟩ | ⟨-, entry, found, -⟩
  · rw [failed] at date
    cases date
    rfl
  · rw [failed] at found
    cases found

/-- Entries keep the lines of which they were read. -/
theorem map_raw_of_read {lines : List String} {output : Output} {entries : List Entry}
    (read : lines.map (ofLine · output) = entries.map Except.ok) : entries.map raw = lines := by
  induction lines generalizing entries with
  | nil =>
    rcases List.map_eq_nil_iff.mp read.symm with rfl
    rfl
  | cons line lines inductionHypothesis =>
    cases entries with
    | nil => cases read
    | cons entry entries =>
      rw [List.map_cons, List.map_cons, List.cons.injEq] at read
      rw [List.map_cons, inductionHypothesis read.2, (of_ofLine read.1).1]

end Entry
end Log
end ContainerFleet
