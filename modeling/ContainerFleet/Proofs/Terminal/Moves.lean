import Mathlib.Data.List.Induction
import ContainerFleet.Terminal.Interleaving

/-!
# What a move of the relays can do

The moves are told apart by their effect: a chunk of output and the end of the output
are read by the same move, and a frame can be a wish for another size, input for the
shell, or unreadable.  What is proved of all stages that can arise is proved from these
cases, by induction on the moves with the latest of them at the end.
-/

namespace ContainerFleet
namespace Terminal
namespace Interleaving

inductive Relay where
  | output
  | input
  deriving DecidableEq, Repr

namespace Move

/-- The relay that makes a move.  The others belong to the closing. -/
def relay? : Move → Option Relay
  | .outputRead _ | .outputLost | .sent _ => some .output
  | .received _ _ | .remoteEnded | .written _ | .resized _ => some .input
  | _ => none

/-- The relay that makes this move has nothing more to relay, or nowhere to take it. -/
def stops : Move → Bool
  | .outputRead octets => octets.isEmpty
  | .outputLost | .remoteEnded => true
  | .sent arrived | .written arrived => !arrived
  | _ => false

def cancelled? : Move → Option Relay
  | .cancelOutput => some .output
  | .cancelInput => some .input
  | _ => none

/-- The frame that is received, and the levels with which it is read. -/
def frame? : Move → Option (Frame × Nat)
  | .received frame levels => some (frame, levels)
  | _ => none

def octets? : Move → Option (List UInt8)
  | .outputRead octets => some octets
  | _ => none

end Move

/-- A frame is a wish for another size, input for the shell, or unreadable. -/
theorem frame_sorts (frame : Frame) (levels : Nat) :
    (∃ text wish, frame.text = some text ∧ Resize.ofText text levels = .ok (some wish)) ∨
    (∀ text, frame.text = some text → Resize.ofText text levels = .ok none) ∨
    (∃ text error, frame.text = some text ∧ Resize.ofText text levels = .error error) := by
  cases written : frame.text with
  | none => exact .inr (.inl fun text same => by cases same)
  | some text =>
    rcases parsed : Resize.ofText text levels with error | _ | wish
    · exact .inr (.inr ⟨text, error, rfl, parsed⟩)
    · exact .inr (.inl fun other same => Option.some.inj same ▸ parsed)
    · exact .inl ⟨text, wish, rfl, parsed⟩

/-- The relay that makes an attempt.  The others belong to opening and closing. -/
def Attempt.relay? : Attempt → Option Relay
  | .send _ => some .output
  | .write _ | .resize _ _ _ => some .input
  | .tell _ | .closeShell | .closeRemote => none

/-- The attempts of one relay, or those of neither. -/
def attemptsOf (relay? : Option Relay) (attempts : List Attempt) : List Attempt :=
  attempts.filter fun attempt => attempt.relay? = relay?

theorem attemptsOf_append (relay? : Option Relay) (first second : List Attempt) :
    attemptsOf relay? (first ++ second) = attemptsOf relay? first ++ attemptsOf relay? second :=
  List.filter_append first second

namespace Stage

def Ended (stage : Stage) : Relay → Prop
  | .output => stage.output = .ended
  | .input => stage.input = .ended

/-- The moves by their effect. -/
inductive Step (stage : Stage) : Move → Stage → Prop
  | chunk {octets : List UInt8} : stage.relaying = true → stage.output = .reading → octets ≠ [] →
      Step stage (.outputRead octets) ({ stage with output := .sending }.attempting (.send octets))
  | outputEnd : stage.relaying = true → stage.output = .reading →
      Step stage (.outputRead []) { stage with output := .ended }
  | outputLost : stage.relaying = true → stage.output = .reading →
      Step stage .outputLost { stage with output := .ended }
  | sent {arrived : Bool} : stage.relaying = true → stage.output = .sending →
      Step stage (.sent arrived) { stage with output := if arrived then .reading else .ended }
  | wish {frame : Frame} {levels : Nat} {text : String} {wish : Resize} : stage.relaying = true →
      stage.input = .receiving → frame.text = some text →
      Resize.ofText text levels = .ok (some wish) →
      Step stage (.received frame levels)
        (({ stage with input := .resizing }.enter .resizing).attempting
          (.resize stage.execution.id wish.rows wish.columns))
  | typed {frame : Frame} {levels : Nat} : stage.relaying = true → stage.input = .receiving →
      (∀ text, frame.text = some text → Resize.ofText text levels = .ok none) →
      Step stage (.received frame levels)
        ({ stage with input := .writing }.attempting (.write frame.payload))
  | unreadable {frame : Frame} {levels : Nat} {text : String} {error : Json.ReadError} :
      stage.relaying = true → stage.input = .receiving → frame.text = some text →
      Resize.ofText text levels = .error error →
      Step stage (.received frame levels) { stage with input := .ended }
  | remoteEnded : stage.relaying = true → stage.input = .receiving →
      Step stage .remoteEnded { stage with input := .ended }
  | written {arrived : Bool} : stage.relaying = true → stage.input = .writing →
      Step stage (.written arrived) { stage with input := if arrived then .receiving else .ended }
  | resized {changed : Bool} : stage.relaying = true → stage.input = .resizing →
      Step stage (.resized changed) ({ stage with input := .receiving }.enter .streaming)
  | beginClosing {closed : Bool} : stage.closing = .notBegun →
      stage.output = .ended ∨ stage.input = .ended →
      Step stage (.beginClosing closed)
        (({ stage with closing := .underWay }.attempting .closeShell).attempting .closeRemote)
  | remoteClosed {closed : Bool} : stage.closing = .underWay →
      Step stage (.remoteClosed closed) { stage with closing := .cancelling }
  | cancelOutput : stage.closing = .cancelling →
      Step stage .cancelOutput { stage with output := .ended }
  | cancelInput : stage.closing = .cancelling →
      Step stage .cancelInput { stage with input := .ended }
  | finish : stage.closing = .cancelling → stage.output = .ended → stage.input = .ended →
      Step stage .finish ({ stage with closing := .done }.enter .closed)

variable {stage after first last : Stage} {move : Move} {moves : List Move}

theorem takeFrame_of_unwished {frame : Frame} {levels : Nat}
    (unwished : ∀ text, frame.text = some text → Resize.ofText text levels = .ok none) :
    stage.takeFrame frame levels =
      { stage with input := .writing }.attempting (.write frame.payload) := by
  rw [takeFrame]
  cases text : frame.text with
  | none => rfl
  | some written => rw [Option.map_some, unwished written text]

theorem guarded {possible : Bool} {next : Stage}
    (stepped : (if possible then some next else none) = some after) :
    possible = true ∧ next = after := by
  cases possible with
  | false => cases stepped
  | true => exact ⟨rfl, Option.some.inj stepped⟩

theorem step_of_outputStep? (stepped : stage.outputStep? move = some after) :
    Step stage move after := by
  cases move <;> rw [outputStep?] at stepped
  case outputRead octets =>
    rcases guarded stepped with ⟨possible, rfl⟩
    rw [Bool.and_eq_true, beq_iff_eq] at possible
    cases octets with
    | nil => exact .outputEnd possible.1 possible.2
    | cons octet rest => exact .chunk possible.1 possible.2 (List.cons_ne_nil octet rest)
  case outputLost =>
    rcases guarded stepped with ⟨possible, rfl⟩
    rw [Bool.and_eq_true, beq_iff_eq] at possible
    exact .outputLost possible.1 possible.2
  case sent arrived =>
    rcases guarded stepped with ⟨possible, rfl⟩
    rw [Bool.and_eq_true, beq_iff_eq] at possible
    exact .sent possible.1 possible.2
  all_goals cases stepped

theorem step_takeFrame (relaying : stage.relaying = true) (free : stage.input = .receiving)
    (frame : Frame) (levels : Nat) :
    Step stage (.received frame levels) (stage.takeFrame frame levels) := by
  rcases frame_sorts frame levels with ⟨text, wish, written, parsed⟩ | unwished |
    ⟨text, error, written, failed⟩
  · rw [takeFrame, written, Option.map_some, parsed]
    exact .wish relaying free written parsed
  · rw [takeFrame_of_unwished unwished]
    exact .typed relaying free unwished
  · rw [takeFrame, written, Option.map_some, failed]
    exact .unreadable relaying free written failed

theorem step_of_inputStep? (stepped : stage.inputStep? move = some after) :
    Step stage move after := by
  cases move <;> rw [inputStep?] at stepped
  case received frame levels =>
    rcases guarded stepped with ⟨possible, rfl⟩
    rw [Bool.and_eq_true, beq_iff_eq] at possible
    exact step_takeFrame possible.1 possible.2 frame levels
  case remoteEnded =>
    rcases guarded stepped with ⟨possible, rfl⟩
    rw [Bool.and_eq_true, beq_iff_eq] at possible
    exact .remoteEnded possible.1 possible.2
  case written arrived =>
    rcases guarded stepped with ⟨possible, rfl⟩
    rw [Bool.and_eq_true, beq_iff_eq] at possible
    exact .written possible.1 possible.2
  case resized changed =>
    rcases guarded stepped with ⟨possible, rfl⟩
    rw [Bool.and_eq_true, beq_iff_eq] at possible
    exact .resized possible.1 possible.2
  all_goals cases stepped

theorem step_of_closingStep? (stepped : stage.closingStep? move = some after) :
    Step stage move after := by
  cases move <;> rw [closingStep?] at stepped
  case beginClosing closed =>
    rcases guarded stepped with ⟨possible, rfl⟩
    rw [Bool.and_eq_true, Bool.or_eq_true, beq_iff_eq, beq_iff_eq, beq_iff_eq] at possible
    exact .beginClosing possible.1 possible.2
  case remoteClosed closed =>
    rcases guarded stepped with ⟨possible, rfl⟩
    exact .remoteClosed (beq_iff_eq.mp possible)
  case cancelOutput =>
    rcases guarded stepped with ⟨possible, rfl⟩
    exact .cancelOutput (beq_iff_eq.mp possible)
  case cancelInput =>
    rcases guarded stepped with ⟨possible, rfl⟩
    exact .cancelInput (beq_iff_eq.mp possible)
  case finish =>
    rcases guarded stepped with ⟨possible, rfl⟩
    rw [Bool.and_eq_true, Bool.and_eq_true, beq_iff_eq, beq_iff_eq, beq_iff_eq] at possible
    exact .finish possible.1.1 possible.1.2 possible.2
  all_goals cases stepped

theorem step_of_step? (stepped : stage.step? move = some after) : Step stage move after := by
  rw [step?, Option.or_eq_some_iff] at stepped
  rcases stepped with relayed | ⟨-, closes⟩
  · rw [Option.or_eq_some_iff] at relayed
    rcases relayed with output | ⟨-, input⟩
    · exact step_of_outputStep? output
    · exact step_of_inputStep? input
  · exact step_of_closingStep? closes

theorem step?_of_step (step : Step stage move after) : stage.step? move = some after := by
  cases step with
  | chunk relaying free full =>
    simp [step?, outputStep?, takeOutput, relaying, free, full]
  | outputEnd relaying free => simp [step?, outputStep?, takeOutput, relaying, free]
  | outputLost relaying free => simp [step?, outputStep?, relaying, free]
  | sent relaying busy => simp [step?, outputStep?, relaying, busy]
  | wish relaying free text parsed =>
    simp [step?, outputStep?, inputStep?, takeFrame, relaying, free, text, parsed]
  | typed relaying free unwished =>
    simp [step?, outputStep?, inputStep?, takeFrame_of_unwished unwished, relaying, free]
  | unreadable relaying free text failed =>
    simp [step?, outputStep?, inputStep?, takeFrame, relaying, free, text, failed]
  | remoteEnded relaying free => simp [step?, outputStep?, inputStep?, relaying, free]
  | written relaying busy => simp [step?, outputStep?, inputStep?, relaying, busy]
  | resized relaying busy => simp [step?, outputStep?, inputStep?, relaying, busy]
  | beginClosing notBegun ended =>
    simp [step?, outputStep?, inputStep?, closingStep?, notBegun, ended]
  | remoteClosed underWay => simp [step?, outputStep?, inputStep?, closingStep?, underWay]
  | cancelOutput cancelling => simp [step?, outputStep?, inputStep?, closingStep?, cancelling]
  | cancelInput cancelling => simp [step?, outputStep?, inputStep?, closingStep?, cancelling]
  | finish cancelling outputEnded inputEnded =>
    simp [step?, outputStep?, inputStep?, closingStep?, cancelling, outputEnded, inputEnded]

theorem run?_cons_of_step {later : List Move} (step : Step stage move after) :
    run? stage (move :: later) = run? after later := by
  rw [run?, step?_of_step step, Option.bind_some]

/-- Who makes a move makes the attempts that come with it. -/
theorem Step.attempts (step : Step stage move after) :
    ∃ added, after.attempts = stage.attempts ++ added ∧
      ∀ attempt ∈ added, attempt.relay? = move.relay? := by
  cases step with
  | chunk | wish | typed => exact ⟨[_], rfl, by simp [Attempt.relay?, Move.relay?]⟩
  | beginClosing =>
    refine ⟨[.closeShell, .closeRemote], ?_, by simp [Attempt.relay?, Move.relay?]⟩
    simp [attempting]
  | _ => exact ⟨[], (List.append_nil _).symm, by simp⟩

theorem Step.attemptsOf_of_ne {relay? : Option Relay} (step : Step stage move after)
    (different : move.relay? ≠ relay?) :
    attemptsOf relay? after.attempts = attemptsOf relay? stage.attempts := by
  rcases step.attempts with ⟨added, attempts, own⟩
  have none : attemptsOf relay? added = [] := by
    rw [attemptsOf, List.filter_eq_nil_iff]
    intro attempt member same
    rw [decide_eq_true_eq, own attempt member] at same
    exact different same
  rw [attempts, attemptsOf_append, none, List.append_nil]

theorem Step.closing_of_relay (step : Step stage move after) (relay : move.relay? ≠ none) :
    after.closing = stage.closing := by
  cases step with
  | beginClosing | remoteClosed | cancelOutput | cancelInput | finish => exact absurd rfl relay
  | _ => rfl

/-- A run, with the latest move at the end. -/
inductive Run (first : Stage) : List Move → Stage → Prop
  | start : Run first [] first
  | next {earlier : List Move} {stage after : Stage} {move : Move} :
      Run first earlier stage → Step stage move after → Run first (earlier ++ [move]) after

theorem run_of_run? (ran : run? first moves = some last) : Run first moves last := by
  induction moves using List.reverseRecOn generalizing last with
  | nil =>
    cases ran
    exact .start
  | append_singleton earlier move inductionHypothesis =>
    rw [run?_append] at ran
    rcases Option.bind_eq_some_iff.mp ran with ⟨stage, ranEarlier, ranLast⟩
    rw [run?, Option.bind_eq_some_iff] at ranLast
    rcases ranLast with ⟨after, stepped, same⟩
    rw [← Option.some.inj same]
    exact (inductionHypothesis ranEarlier).next (step_of_step? stepped)

end Stage
end Interleaving
end Terminal
end ContainerFleet
