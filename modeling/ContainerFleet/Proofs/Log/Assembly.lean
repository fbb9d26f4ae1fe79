import ContainerFleet.Proofs.Log.Lines
import ContainerFleet.Proofs.Text.Lossy
import Mathlib.Data.List.Basic

/-!
# Lines put together from pieces

Octets come to a buffer in pieces that end anywhere, also within a character.  However
they are cut, a receiver that takes every line gets the lines of the text that all octets
together are read as.  This holds of octets that are no text as well: line feed and
carriage return are in ASCII, so that a line that is read by itself says what it says
within the whole.
-/

namespace ContainerFleet
namespace Log
namespace LineBuffer

/-! ## Lines of a text -/

/-- A line of text without one carriage return at its end. -/
def unreturned (line : List Char) : List Char :=
  if line.getLast? = some '\r' then line.dropLast else line

/-- The lines of a text in which there is anything. -/
def linesOf (text : List Char) : List String :=
  (((text.splitOn '\n').map unreturned).filter (· ≠ [])).map String.ofList

theorem unreturned_append_return (line : List Char) : unreturned (line ++ ['\r']) = line := by
  rw [unreturned, List.getLast?_concat, if_pos rfl, List.dropLast_concat]

theorem decode_append_lineFeed (line rest : List UInt8) :
    Utf8.decode (line ++ lineFeed :: rest) = Utf8.decode line ++ '\n' :: Utf8.decode rest :=
  Utf8.decode_append (by decide : '\n'.toNat < 128) line rest

theorem decode_append_return (line rest : List UInt8) :
    Utf8.decode (line ++ carriageReturn :: rest) = Utf8.decode line ++ '\r' :: Utf8.decode rest :=
  Utf8.decode_append (by decide : '\r'.toNat < 128) line rest

/-- The text is split where the octets are. -/
theorem splitOn_decode (octets : List UInt8) :
    (Utf8.decode octets).splitOn '\n' = (octets.splitOn lineFeed).map Utf8.decode := by
  have none_read {line : List UInt8} (none_there : lineFeed ∉ line) : '\n' ∉ Utf8.decode line :=
    fun member => none_there (Utf8.mem_of_mem_decode (by decide : '\n'.toNat < 128) member)
  induction octets using line_induction with
  | last line last =>
    rw [List.splitOn_eq_singleton last, List.splitOn_eq_singleton (none_read last),
      List.map_singleton]
  | line line rest first inductionHypothesis =>
    rw [decode_append_lineFeed, List.splitOn_append_cons_self_of_not_mem first,
      List.splitOn_append_cons_self_of_not_mem (none_read first), inductionHypothesis,
      List.map_cons]

/-- The text of a line ends with a carriage return only where the line does. -/
theorem getLast?_decode {line : List UInt8} (other : line.getLast? ≠ some carriageReturn) :
    (Utf8.decode line).getLast? ≠ some '\r' := by
  have return_there {octets : List UInt8} (member : '\r' ∈ Utf8.decode octets) :
      carriageReturn ∈ octets :=
    Utf8.mem_of_mem_decode (by decide : '\r'.toNat < 128) member
  intro ends
  have member := List.mem_reverse.mpr (return_there (List.mem_of_getLast? ends))
  -- Behind the last carriage return something stands, and its text has none.
  rcases List.eq_append_cons_of_mem member with ⟨behind, front, shape, none_behind⟩
  rw [List.reverse_eq_iff, List.reverse_append, List.reverse_cons, List.append_assoc,
    List.singleton_append] at shape
  rw [← List.mem_reverse] at none_behind
  generalize behind.reverse = behind at shape none_behind
  subst shape
  have present : behind ≠ [] := by
    rintro rfl
    exact other List.getLast?_concat
  have filled : Utf8.decode behind ≠ [] := mt Utf8.decode_eq_nil_iff.mp present
  rw [decode_append_return, ← List.singleton_append, ← List.append_assoc,
    List.getLast?_append_of_ne_nil _ filled] at ends
  exact none_behind (return_there (List.mem_of_getLast? ends))

theorem unreturned_decode (line : List UInt8) :
    unreturned (Utf8.decode line) = Utf8.decode (withoutReturn line) := by
  by_cases ends : line.getLast? = some carriageReturn
  · rcases List.getLast?_eq_some_iff.mp ends with ⟨front, rfl⟩
    have text := decode_append_return front []
    rw [text, withoutReturn_append_return]
    exact unreturned_append_return (Utf8.decode front)
  · rw [withoutReturn_of_getLast? ends, unreturned, if_neg (getLast?_decode ends)]

/-- The texts of the lines are the lines of the text. -/
theorem texts_eq_linesOf (octets : List UInt8) : texts octets = linesOf (Utf8.decode octets) := by
  rw [texts, linesOf, splitOn_decode]
  induction octets.splitOn lineFeed with
  | nil => rfl
  | cons line lines inductionHypothesis =>
    rw [List.map_cons, List.map_cons, unreturned_decode, List.filterMap_cons, text?]
    by_cases empty : withoutReturn line = []
    · rw [empty]
      exact inductionHypothesis
    · have filled : Utf8.decode (withoutReturn line) ≠ [] := mt Utf8.decode_eq_nil_iff.mp empty
      rw [if_neg (mt List.isEmpty_iff.mp empty), List.filter_cons_of_pos (by simpa using filled),
        List.map_cons, ← inductionHypothesis]
      rfl

/-! ## Writing pieces -/

variable {ε σ : Type}

/-- Take in pieces one after another, up to the first failure. -/
def writeAll (receive : Receiver ε σ) :
    LineBuffer → List (List UInt8) → σ → LineBuffer × EStateM.Result ε σ Unit
  | buffer, [], state => (buffer, .ok () state)
  | buffer, piece :: later, state =>
    match buffer.write receive piece state with
    | (buffer, .ok () state) => writeAll receive buffer later state
    | (buffer, .error error state) => (buffer, .error error state)

/-- A receiver that takes every line. -/
def taking (keep : σ → String → σ) : Receiver ε σ := fun line state => .ok () (keep state line)

variable (keep : σ → String → σ)

theorem emit_taking (line : List UInt8) (state : σ) :
    emit (taking keep : Receiver ε σ) line state =
      .ok () ((text? line).toList.foldl keep state) := by
  rw [emit_eq]
  cases text? line <;> rfl

theorem forM_taking (lines : List (List UInt8)) (state : σ) :
    (forM lines (emit (taking keep : Receiver ε σ))).run state =
      .ok () ((lines.filterMap text?).foldl keep state) := by
  induction lines generalizing state with
  | nil => rfl
  | cons line lines inductionHypothesis =>
    rw [List.forM_cons, EStateM.run_bind, EStateM.run, emit_taking]
    dsimp only
    rw [inductionHypothesis, List.filterMap_cons]
    cases text? line <;> rfl

theorem drain_taking (octets : List UInt8) (state : σ) :
    drain (taking keep : Receiver ε σ) octets state =
      (⟨waiting octets⟩, .ok () (((ended octets).filterMap text?).foldl keep state)) := by
  rcases drain_eq (taking keep : Receiver ε σ) octets state with ⟨result, kept⟩
  rw [forM_taking] at result
  exact Prod.ext (kept _ result) result

/-- Pieces are taken in as if they had come at once. -/
theorem writeAll_taking (before : List UInt8) (pieces : List (List UInt8)) (state : σ) :
    writeAll (taking keep : Receiver ε σ) ⟨waiting before⟩ pieces state =
      (⟨waiting (before ++ pieces.flatten)⟩,
        .ok () (((ended (waiting before ++ pieces.flatten)).filterMap text?).foldl keep state)) := by
  induction pieces generalizing before state with
  | nil =>
    rw [writeAll, List.flatten_nil, List.append_nil, List.append_nil,
      ended_of_not_mem (lineFeed_not_mem_waiting before)]
    rfl
  | cons piece pieces inductionHypothesis =>
    rcases append_lines before piece with ⟨-, waits⟩
    rcases append_lines (waiting before ++ piece) pieces.flatten with ⟨lines, -⟩
    rw [writeAll, write, drain_taking]
    dsimp only
    rw [← waits, inductionHypothesis, List.flatten_cons, ← List.append_assoc, ← List.append_assoc,
      lines, List.filterMap_append, List.foldl_append, waits]

/-- What waits is the part behind the last line feed. -/
theorem exists_front_of_waiting (octets : List UInt8) :
    ∃ front, octets = front ++ waiting octets ∧ (front = [] ∨ front.getLast? = some lineFeed) := by
  induction octets using line_induction with
  | last line last => exact ⟨[], by rw [waiting_of_not_mem last]; rfl, .inl rfl⟩
  | line line rest first inductionHypothesis =>
    rcases inductionHypothesis with ⟨front, shape, ends⟩
    refine ⟨line ++ lineFeed :: front, ?_, .inr ?_⟩
    · rw [waiting_cons first, List.append_assoc, List.cons_append, ← shape]
    · rw [List.getLast?_append_cons]
      rcases ends with rfl | ends
      · rfl
      · rw [List.getLast?_cons, ends]
        rfl

/-- However octets are cut into pieces, the lines that are handed over are those of the one
text that all the octets are read as.  The buffer holds what stands behind the last line
feed until it is flushed; then nothing is left. -/
theorem lines_of_pieces (pieces : List (List UInt8)) (start : σ) :
    ∃ text, (∀ other, Utf8.Lossy pieces.flatten other ↔ other = text) ∧
      ∃ buffer written, writeAll (taking keep : Receiver ε σ) empty pieces start =
          (buffer, .ok () written) ∧
        (∃ front, pieces.flatten = front ++ buffer.pending ∧ lineFeed ∉ buffer.pending ∧
          (front = [] ∨ front.getLast? = some lineFeed)) ∧
        buffer.flush (taking keep : Receiver ε σ) written =
          (empty, .ok () ((linesOf text).foldl keep start)) ∧
        ∀ state, empty.flush (taking keep : Receiver ε σ) state = (empty, .ok () state) := by
  refine ⟨Utf8.decode pieces.flatten, fun other => ?_, ⟨waiting pieces.flatten⟩, _,
    writeAll_taking keep [] pieces start, ?_, ?_, fun state => rfl⟩
  · rw [Utf8.lossy_iff, eq_comm]
  · rcases exists_front_of_waiting pieces.flatten with ⟨front, shape, ends⟩
    exact ⟨front, shape, lineFeed_not_mem_waiting _, ends⟩
  · have last : [waiting pieces.flatten].filterMap text? =
        (text? (waiting pieces.flatten)).toList := by
      rw [List.filterMap_cons]
      cases text? (waiting pieces.flatten) <;> rfl
    rw [flush_eq, emit_taking, ← texts_eq_linesOf, texts_eq, List.filterMap_append,
      List.foldl_append, waiting_of_not_mem List.not_mem_nil, List.nil_append, last]

end LineBuffer
end Log
end ContainerFleet
