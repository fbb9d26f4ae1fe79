import ContainerFleet.Log.LineBuffer

/-!
# Lines and what a buffer holds

The octets of one output fall into the lines that a line feed has ended and the
octets behind the last line feed.  `ended` and `waiting` say so about octets that
are all there; a buffer that is written to hands over the first and holds the
second, up to the first line that its receiver refuses.
-/

namespace ContainerFleet
namespace Log
namespace LineBuffer

/-- The lines that a line feed has ended, without it. -/
def ended (octets : List UInt8) : List (List UInt8) :=
  (octets.splitOn lineFeed).dropLast

/-- The octets behind the last line feed. -/
def waiting (octets : List UInt8) : List UInt8 :=
  (octets.splitOn lineFeed).getLastD []

/-- The text of a line, which loses one carriage return at its end; none where
nothing is left. -/
def text? (line : List UInt8) : Option String :=
  if (withoutReturn line).isEmpty then none else some (Utf8.decodeText (withoutReturn line))

/-- The texts of all lines, the one that has not been ended included. -/
def texts (octets : List UInt8) : List String :=
  (octets.splitOn lineFeed).filterMap text?

theorem withoutReturn_append_return (line : List UInt8) :
    withoutReturn (line ++ [carriageReturn]) = line := by
  rw [withoutReturn, List.getLast?_concat, if_pos rfl, List.dropLast_concat]

theorem withoutReturn_of_getLast? {line : List UInt8}
    (other : line.getLast? ≠ some carriageReturn) : withoutReturn line = line :=
  if_neg other

/-! ## Lines of octets -/

/-- Octets are one line that has not ended, or a line with its line feed and
octets behind it. -/
@[elab_as_elim]
theorem line_induction {motive : List UInt8 → Prop}
    (last : ∀ line, lineFeed ∉ line → motive line)
    (line : ∀ line rest, lineFeed ∉ line → motive rest → motive (line ++ lineFeed :: rest))
    (octets : List UInt8) : motive octets := by
  induction size : octets.length using Nat.strongRecOn generalizing octets with
  | _ length inductionHypothesis =>
  by_cases there : lineFeed ∈ octets
  · rcases List.eq_append_cons_of_mem there with ⟨front, rest, rfl, first⟩
    refine line front rest first (inductionHypothesis rest.length ?_ rest rfl)
    rw [← size, List.length_append, List.length_cons]
    omega
  · exact last octets there

theorem ended_append_waiting (octets : List UInt8) :
    ended octets ++ [waiting octets] = octets.splitOn lineFeed := by
  have present := List.splitOn_ne_nil lineFeed octets
  rw [ended, waiting, List.getLastD_eq_getLast?, List.getLast?_eq_some_getLast present]
  exact List.dropLast_concat_getLast present

theorem texts_eq (octets : List UInt8) :
    texts octets = (ended octets ++ [waiting octets]).filterMap text? := by
  rw [ended_append_waiting, texts]

theorem ended_of_not_mem {line : List UInt8} (last : lineFeed ∉ line) : ended line = [] := by
  rw [ended, List.splitOn_eq_singleton last]
  rfl

theorem waiting_of_not_mem {line : List UInt8} (last : lineFeed ∉ line) :
    waiting line = line := by
  rw [waiting, List.splitOn_eq_singleton last]
  rfl

theorem ended_cons {line : List UInt8} (first : lineFeed ∉ line) (rest : List UInt8) :
    ended (line ++ lineFeed :: rest) = line :: ended rest := by
  rw [ended, List.splitOn_append_cons_self_of_not_mem first,
    List.dropLast_cons_of_ne_nil (List.splitOn_ne_nil lineFeed rest), ended]

theorem waiting_cons {line : List UInt8} (first : lineFeed ∉ line) (rest : List UInt8) :
    waiting (line ++ lineFeed :: rest) = waiting rest := by
  have present := List.getLast?_eq_some_getLast (List.splitOn_ne_nil lineFeed rest)
  rw [waiting, waiting, List.splitOn_append_cons_self_of_not_mem first,
    List.getLastD_eq_getLast?, List.getLastD_eq_getLast?, List.getLast?_cons, present]
  rfl

/-- The octets behind the last line feed hold no other. -/
theorem lineFeed_not_mem_waiting (octets : List UInt8) : lineFeed ∉ waiting octets := by
  induction octets using line_induction with
  | last line last =>
    rw [waiting_of_not_mem last]
    exact last
  | line line rest first inductionHypothesis =>
    rw [waiting_cons first]
    exact inductionHypothesis

/-- Only what waits decides how octets go on: the lines that more octets end,
and what then waits. -/
theorem append_lines (octets more : List UInt8) :
    ended (octets ++ more) = ended octets ++ ended (waiting octets ++ more) ∧
      waiting (octets ++ more) = waiting (waiting octets ++ more) := by
  induction octets using line_induction with
  | last line last =>
    rw [waiting_of_not_mem last, ended_of_not_mem last]
    exact ⟨rfl, rfl⟩
  | line line rest first inductionHypothesis =>
    rw [List.append_assoc, List.cons_append, ended_cons first, ended_cons first,
      waiting_cons first, waiting_cons first, List.cons_append]
    exact ⟨congrArg (line :: ·) inductionHypothesis.1, inductionHypothesis.2⟩

/-! ## What a buffer hands over -/

theorem splitLine?_of_not_mem {line : List UInt8} (last : lineFeed ∉ line) :
    splitLine? line = none := by
  have passed : ∀ octet ∈ line, decide (octet ≠ lineFeed) = true := fun octet member =>
    decide_eq_true fun same => last (same ▸ member)
  have dropped : line.dropWhile (· ≠ lineFeed) = [] := by
    rw [← List.append_nil line, List.dropWhile_append_of_pos passed]
    rfl
  rw [splitLine?, dropped]

theorem splitLine?_cons {line : List UInt8} (first : lineFeed ∉ line) (rest : List UInt8) :
    splitLine? (line ++ lineFeed :: rest) = some (line, rest) := by
  have passed : ∀ octet ∈ line, decide (octet ≠ lineFeed) = true := fun octet member =>
    decide_eq_true fun same => first (same ▸ member)
  rw [splitLine?, List.dropWhile_append_of_pos passed, List.takeWhile_append_of_pos passed,
    List.dropWhile_cons_of_neg (by simp), List.takeWhile_cons_of_neg (by simp), List.append_nil]

variable {ε σ : Type} (receive : Receiver ε σ)

/-- A line is handed over as its text, if it has one. -/
theorem emit_eq (line : List UInt8) (state : σ) :
    emit receive line state =
      match text? line with
      | none => .ok () state
      | some text => receive text state := by
  rw [emit, text?]
  cases (withoutReturn line).isEmpty <;> rfl

theorem drain_of_not_mem {line : List UInt8} (last : lineFeed ∉ line) (state : σ) :
    drain receive line state = (⟨line⟩, .ok () state) := by
  rw [drain]
  split
  · rfl
  · rename_i split
    rw [splitLine?_of_not_mem last] at split
    cases split

theorem drain_cons {line : List UInt8} (first : lineFeed ∉ line) (rest : List UInt8)
    (state : σ) :
    drain receive (line ++ lineFeed :: rest) state =
      match emit receive line state with
      | .ok () state => drain receive rest state
      | .error error state => (⟨rest⟩, .error error state) := by
  rw [drain]
  split
  · rename_i split
    rw [splitLine?_cons first] at split
    cases split
  · rename_i split
    rw [splitLine?_cons first] at split
    cases split
    rfl

/-- Taking lines out of octets hands over the ended ones in order, up to the
first that the receiver refuses; where it refuses none, what waits is kept. -/
theorem drain_eq (octets : List UInt8) (state : σ) :
    (drain receive octets state).2 = (forM (ended octets) (emit receive)).run state ∧
      ∀ after, (drain receive octets state).2 = .ok () after →
        (drain receive octets state).1 = ⟨waiting octets⟩ := by
  induction octets using line_induction generalizing state with
  | last line last =>
    rw [drain_of_not_mem receive last, ended_of_not_mem last, waiting_of_not_mem last]
    exact ⟨rfl, fun _ _ => rfl⟩
  | line line rest first inductionHypothesis =>
    rw [drain_cons receive first, ended_cons first, waiting_cons first, List.forM_cons]
    change _ = EStateM.bind (emit receive line) _ state ∧ _
    rw [EStateM.bind]
    cases emit receive line state with
    | ok _ next => exact inductionHypothesis next
    | error error next =>
      refine ⟨rfl, fun after succeeded => ?_⟩
      cases succeeded

theorem flush_eq (buffer : LineBuffer) (state : σ) :
    buffer.flush receive state = (empty, emit receive buffer.pending state) := by
  rcases buffer with ⟨pending⟩
  cases pending with
  | nil => rfl
  | cons octet pending => rfl

end LineBuffer
end Log
end ContainerFleet
