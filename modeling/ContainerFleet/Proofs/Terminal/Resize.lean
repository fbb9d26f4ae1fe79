import ContainerFleet.Proofs.Decode.Record
import ContainerFleet.Proofs.Json.Reading
import ContainerFleet.Proofs.Terminal.Faithful

/-!
# Wishes and input

A text from the remote side is a wish for another size just if it is an object of a
certain form, and all other text is input for the shell, up to one exception: a text in
which arrays and objects are nested beyond the levels of the reader is neither, and ends
the relay.  Nothing else that a text can say does.

How many levels there are is left open, and may change from one frame to the next.  More
of them change nothing for a text that fewer suffice for, and as many as it has brackets
suffice for every text.
-/

namespace ContainerFleet
namespace Terminal

open Decode

/-! ## Wishes -/

/-- The number under a key: zero where there is none, and else the whole number that the
document can be taken for, which must not be negative. -/
def Counts (members : Members) (name : String) (number : Int) : Prop :=
  (∃ document, members.lookup name = some document ∧ whole document = .ok number ∧ 0 ≤ number) ∨
  (members.lookup name = none ∧ number = 0)

/-- The text is an object of the type for wishes with this number of columns and rows,
nested in no more than so many levels. -/
def Expresses (levels : Nat) (text : String) (wish : Resize) : Prop :=
  ∃ members, Json.IsDocument levels text (.object members) ∧
    members.lookup "type" = some (.text "resize") ∧
    Counts members "cols" wish.columns ∧ Counts members "rows" wish.rows

namespace Resize

theorem count_eq_ok_iff {members : Members} {name : String} {number : Int} :
    count members name = .ok number ↔ Counts members name number := by
  simp only [count, withDefault_eq_ok_iff, ensure_eq_ok_iff, decide_eq_true_eq, Counts]

theorem decode_eq_ok_iff {members : Members} {wish : Resize} :
    decode members = .ok wish ↔
      Counts members "cols" wish.columns ∧ Counts members "rows" wish.rows := by
  rw [← count_eq_ok_iff, ← count_eq_ok_iff]
  constructor
  · intro decoded
    rcases Checked.ok_of_seq decoded with ⟨made, rows, columnsDecoded, rowsDecoded, rfl⟩
    rcases Checked.ok_of_map columnsDecoded with ⟨columns, counted, rfl⟩
    exact ⟨counted, rowsDecoded⟩
  · rintro ⟨columns, rows⟩
    rw [decode, columns, rows]
    rfl

theorem ofDocument?_eq_some_iff {document : Json} {wish : Resize} :
    ofDocument? document = some wish ↔
      ∃ members, document = .object members ∧ members.lookup "type" = some (.text "resize") ∧
        decode members = .ok wish := by
  constructor
  · intro found
    unfold ofDocument? at found
    split at found
    · rename_i members
      split at found
      · rename_i isResize
        split at found
        · rename_i decoded
          cases found
          exact ⟨members, rfl, isResize, decoded⟩
        · cases found
      · cases found
    · cases found
  · rintro ⟨members, rfl, isResize, decoded⟩
    simp only [ofDocument?, isResize, decoded]

/-- A text fails to be read only for its depth. -/
theorem ofText_eq_error_iff {levels : Nat} {text : String} {error : Json.ReadError} :
    ofText text levels = .error error ↔ error = .tooDeep ∧ Json.IsTooDeep levels text := by
  rw [← Json.read_eq_tooDeep_iff, ofText]
  rcases Json.read text levels with (_ | _) | document
  · simp
  · simp [eq_comm]
  · simp

theorem ofText_eq_wish_iff {levels : Nat} {text : String} {wish : Resize} :
    ofText text levels = .ok (some wish) ↔ Expresses levels text wish := by
  have shape : ofText text levels = .ok (some wish) ↔
      ∃ document, Json.read text levels = .ok document ∧ ofDocument? document = some wish := by
    rw [ofText]
    rcases Json.read text levels with (_ | _) | document
    all_goals simp
  rw [shape]
  constructor
  · rintro ⟨document, isDocument, found⟩
    rcases ofDocument?_eq_some_iff.mp found with ⟨members, rfl, isResize, decoded⟩
    exact ⟨members, Json.read_eq_ok_iff.mp isDocument, isResize, decode_eq_ok_iff.mp decoded⟩
  · rintro ⟨members, isDocument, isResize, counts⟩
    exact ⟨.object members, Json.read_eq_ok_iff.mpr isDocument,
      ofDocument?_eq_some_iff.mpr ⟨members, rfl, isResize, decode_eq_ok_iff.mpr counts⟩⟩

theorem ofText_eq_none_iff {levels : Nat} {text : String} :
    ofText text levels = .ok none ↔
      ¬ Json.IsTooDeep levels text ∧ ∀ wish, ¬ Expresses levels text wish := by
  constructor
  · intro unwished
    constructor
    · intro deep
      cases unwished.symm.trans (ofText_eq_error_iff.mpr ⟨rfl, deep⟩)
    · intro wish expresses
      cases unwished.symm.trans (ofText_eq_wish_iff.mpr expresses)
  · rintro ⟨shallow, unwished⟩
    rcases parsed : ofText text levels with error | _ | wish
    · exact absurd (ofText_eq_error_iff.mp parsed).2 shallow
    · rfl
    · exact absurd (ofText_eq_wish_iff.mp parsed) (unwished wish)

/-- More levels change nothing for a text that is not nested too deeply. -/
theorem ofText_of_le {depth levels : Nat} (within : depth ≤ levels) {text : String}
    (shallow : ¬ Json.IsTooDeep depth text) : ofText text levels = ofText text depth := by
  rw [ofText, ofText, Json.read_of_le within shallow]

end Resize

/-! ## The relay of the input -/

namespace Interleaving

/-- The relay of the input goes to another place and makes some attempts; nothing else of
the stage than these and the states it went through is touched. -/
structure InputGoes (stage after : Stage) (place : InputRelay) (attempts : List Attempt) :
    Prop where
  place : after.input = place
  attempts : after.attempts = stage.attempts ++ attempts
  output : after.output = stage.output
  closing : after.closing = stage.closing

/-- A text that was received is dealt with, and the relay goes on unless the input does
not arrive. -/
inductive DealsWith (levels : Nat) (stage : Stage) (text : String) (after : Stage) : Prop
  | resizes {wish : Resize} : Expresses levels text wish →
      InputGoes stage after .resizing [.resize stage.execution.id wish.rows wish.columns] →
      (∀ changed, ∃ next, after.step? (.resized changed) = some next ∧
        InputGoes after next .receiving []) →
      DealsWith levels stage text after
  | writes : (∀ wish, ¬ Expresses levels text wish) →
      InputGoes stage after .writing [.write (Utf8.encodeText text)] →
      (∀ arrived, ∃ next, after.step? (.written arrived) = some next ∧
        InputGoes after next (if arrived then .receiving else .ended) []) →
      DealsWith levels stage text after

/-- The remote side ends, the input does not arrive, the relay is cancelled, or a text
comes that is nested too deeply for the levels with which it is read. -/
def EndsInput (move : Move) : Prop :=
  (move.relay? = some .input ∧ move.stops = true) ∨ move.cancelled? = some .input ∨
  ∃ frame levels text, move = .received frame levels ∧ frame.text = some text ∧
    Json.IsTooDeep levels text

namespace Stage

variable {stage after first last : Stage} {move : Move} {moves : List Move} {levels : Nat}

theorem dealsWith_of_shallow (relaying : stage.relaying = true) (free : stage.input = .receiving)
    {text : String} (shallow : ¬ Json.IsTooDeep levels text) :
    ∃ after, stage.step? (.received (.ofText text) levels) = some after ∧
      DealsWith levels stage text after := by
  rcases parsed : Resize.ofText text levels with error | _ | wish
  · exact absurd (Resize.ofText_eq_error_iff.mp parsed).2 shallow
  · have unwished : ∀ other, (Frame.ofText text).text = some other →
        Resize.ofText other levels = .ok none := by
      rintro _ ⟨⟩
      exact parsed
    refine ⟨_, step?_of_step (.typed relaying free unwished),
      .writes (Resize.ofText_eq_none_iff.mp parsed).2 ⟨rfl, rfl, rfl, rfl⟩ fun arrived => ?_⟩
    refine ⟨_, step?_of_step (.written relaying rfl), rfl, ?_, rfl, rfl⟩
    exact (List.append_nil _).symm
  · refine ⟨_, step?_of_step (.wish relaying free rfl parsed),
      .resizes (Resize.ofText_eq_wish_iff.mp parsed) ⟨rfl, rfl, rfl, rfl⟩ fun changed => ?_⟩
    refine ⟨_, step?_of_step (.resized relaying rfl), rfl, ?_, rfl, rfl⟩
    exact (List.append_nil _).symm

theorem ends_of_tooDeep (relaying : stage.relaying = true) (free : stage.input = .receiving)
    {text : String} (deep : Json.IsTooDeep levels text) :
    ∃ after, stage.step? (.received (.ofText text) levels) = some after ∧
      InputGoes stage after .ended [] := by
  have failed := Resize.ofText_eq_error_iff.mpr ⟨rfl, deep⟩
  exact ⟨_, step?_of_step (.unreadable relaying free rfl failed), rfl, (List.append_nil _).symm,
    rfl, rfl⟩

theorem readable_of_shallow {frame : Frame}
    (shallow : ∀ text, frame.text = some text → ¬ Json.IsTooDeep levels text) :
    Readable (frame, levels) := by
  intro text written
  rcases parsed : Resize.ofText text levels with error | wish?
  · exact absurd (Resize.ofText_eq_error_iff.mp parsed).2 (shallow text written)
  · exact ⟨wish?, rfl⟩

theorem Step.endsInput (step : Step stage move after) (goes : stage.input ≠ .ended)
    (ended : after.input = .ended) : EndsInput move := by
  have wentOn : ¬ stage.Ended .input := goes
  by_cases deep : ∃ frame levels text, move = .received frame levels ∧
      frame.text = some text ∧ Json.IsTooDeep levels text
  · exact .inr (.inr deep)
  · have readable : ∀ frame, move.frame? = some frame → Readable frame := by
      intro frame heard
      cases move with
      | received taken levels =>
        cases heard
        exact readable_of_shallow fun text written isDeep =>
          deep ⟨_, levels, text, rfl, written, isDeep⟩
      | _ => cases heard
    rcases step.reason wentOn ended readable with stops | cancelled
    · exact .inl stops
    · exact .inr (.inl cancelled)

/-- By induction on the moves, a relay that has ended was ended by one of them. -/
theorem endsInput_of_run (run : Run first moves last) (goes : first.input ≠ .ended)
    (ended : last.input = .ended) : ∃ move ∈ moves, EndsInput move := by
  induction run with
  | start => exact absurd ended goes
  | @next earlier stage after move run step inductionHypothesis =>
    by_cases before : stage.input = .ended
    · rcases inductionHypothesis before with ⟨reason, member, ends⟩
      exact ⟨reason, List.mem_append_left _ member, ends⟩
    · exact ⟨move, List.mem_append_right _ (List.mem_singleton_self move),
        step.endsInput before ended⟩

end Stage

/-- Whatever the levels of the reader, a text is a wish just if it expresses one, and
reading it fails just if it is nested too deeply, for which it takes more brackets than
there are levels.  Every other text is dealt with, and the relay goes on.  Over a whole
run no text but one that is nested too deeply ends the relay of the input. -/
theorem texts_relayed_unless_too_deep (levels : Nat) (text : String) :
    (∀ wish, Resize.ofText text levels = .ok (some wish) ↔ Expresses levels text wish) ∧
    (∀ error, Resize.ofText text levels = .error error ↔
      error = .tooDeep ∧ Json.IsTooDeep levels text) ∧
    (Json.IsTooDeep levels text → levels < text.toList.count '[' + text.toList.count '\x7b') ∧
    (¬ Json.IsTooDeep levels text →
      ∀ more, levels ≤ more → Resize.ofText text more = Resize.ofText text levels) ∧
    (∀ stage : Stage, stage.relaying = true → stage.input = .receiving →
      ∃ after, stage.step? (.received (.ofText text) levels) = some after ∧
        (¬ Json.IsTooDeep levels text → DealsWith levels stage text after) ∧
        (Json.IsTooDeep levels text → InputGoes stage after .ended [])) ∧
    ∀ execution history moves last, (Stage.start execution history).run? moves = some last →
      last.input = .ended → ∃ move ∈ moves, EndsInput move := by
  refine ⟨fun _ => Resize.ofText_eq_wish_iff, fun _ => Resize.ofText_eq_error_iff,
    Json.IsTooDeep.brackets, fun shallow _ within => Resize.ofText_of_le within shallow, ?_, ?_⟩
  · intro stage relaying free
    by_cases deep : Json.IsTooDeep levels text
    · rcases Stage.ends_of_tooDeep relaying free deep with ⟨after, stepped, ends⟩
      exact ⟨after, stepped, fun shallow => absurd deep shallow, fun _ => ends⟩
    · rcases Stage.dealsWith_of_shallow relaying free deep with ⟨after, stepped, deals⟩
      exact ⟨after, stepped, fun _ => deals, fun isDeep => absurd isDeep deep⟩
  · intro execution history moves last ran ended
    exact Stage.endsInput_of_run (Stage.run_of_run? ran) (by rintro ⟨⟩) ended

/-- A wish, and then brackets that are never closed. -/
theorem texts_relayed_up_to_brackets :
    let wish := "\x7b\"type\":\"resize\",\"cols\":80,\"rows\":24\x7d"
    let brackets := String.ofList (List.replicate 20000 '[')
    let stage := Stage.start ⟨"exec1", "local", "web"⟩ (walked 0 false)
    Expresses 985 wish ⟨80, 24⟩ ∧
    (∃ after, stage.step? (.received (.ofText wish) 985) = some after ∧
      DealsWith 985 stage wish after) ∧
    Resize.ofText brackets 985 = .error .tooDeep ∧
    ∃ after, stage.step? (.received (.ofText brackets) 985) = some after ∧
      InputGoes stage after .ended [] ∧
      ∃ move ∈ [Move.received (.ofText brackets) 985], EndsInput move := by
  intro wish brackets stage
  have deep : Json.IsTooDeep 985 brackets := by
    have chars : brackets.toList = List.replicate 986 '[' ++ List.replicate 19014 '[' :=
      String.toList_ofList.trans (List.replicate_add 986 19014 '[')
    refine ⟨[], brackets.toList, List.forall_mem_nil _, ?_, (List.nil_append _).symm⟩
    rw [chars]
    exact Json.opensTooDeep_brackets 985 _
  have parsed : Resize.ofText wish 985 = .ok (some ⟨80, 24⟩) := by decide +kernel
  rcases texts_relayed_unless_too_deep 985 wish with ⟨wishes, -, needs, -, wishSteps, -⟩
  rcases texts_relayed_unless_too_deep 985 brackets with ⟨-, errors, -, -, steps, runs⟩
  have shallow : ¬ Json.IsTooDeep 985 wish := fun isDeep => absurd (needs isDeep) (by decide)
  rcases wishSteps stage rfl rfl with ⟨first, firstStep, deals, -⟩
  rcases steps stage rfl rfl with ⟨after, stepped, -, ends⟩
  have ran : stage.run? [.received (.ofText brackets) 985] = some after := by
    rw [Stage.run?, stepped]
    rfl
  exact ⟨(wishes ⟨80, 24⟩).mp parsed, ⟨first, firstStep, deals shallow⟩,
    (errors .tooDeep).mpr ⟨rfl, deep⟩, after, stepped, ends deep,
    runs _ _ _ after ran (ends deep).place⟩

end Interleaving
end Terminal
end ContainerFleet
