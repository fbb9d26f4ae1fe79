import Mathlib.Data.List.Forall2
import ContainerFleet.Daemon.Script
import ContainerFleet.Proofs.Terminal.InTurn

/-!
# What the relays pass on

The input relay makes one attempt for each frame, in order: it changes the size of the
terminal if the frame is a wish for that, and otherwise writes what the frame holds.  The
output relay sends every chunk as it was read.  A relay that stops makes no further move,
and it stops only for a reason: its side has ended or fails, or it is cancelled.

Text that cannot be read as a document or as no document ends the input relay, so frames
are taken to be readable here, each with the levels that its reader has for it.
-/

namespace ContainerFleet
namespace Terminal
namespace Interleaving

open Daemon

/-- What is attempted for a frame. -/
inductive Carries (executionId : String) : Frame × Nat → Attempt → Prop
  | wish {frame : Frame} {levels : Nat} {text : String} {wish : Resize} : frame.text = some text →
      Resize.ofText text levels = .ok (some wish) →
      Carries executionId (frame, levels) (.resize executionId wish.rows wish.columns)
  | text {frame : Frame} {levels : Nat} {text : String} : frame.text = some text →
      Resize.ofText text levels = .ok none →
      Carries executionId (frame, levels) (.write (Utf8.encodeText text))
  | octets {frame : Frame} {levels : Nat} {octets : List UInt8} : frame.text = none →
      frame.data = some octets → Carries executionId (frame, levels) (.write octets)
  | nothing {frame : Frame} {levels : Nat} : frame.text = none → frame.data = none →
      Carries executionId (frame, levels) (.write [])

/-- The text of a frame can be read with so many levels, whether or not it is a wish. -/
def Readable : Frame × Nat → Prop
  | (frame, levels) => ∀ text, frame.text = some text →
      ∃ wish?, Resize.ofText text levels = .ok wish?

theorem carries_payload {frame : Frame} {levels : Nat} (executionId : String)
    (unwished : ∀ text, frame.text = some text → Resize.ofText text levels = .ok none) :
    Carries executionId (frame, levels) (.write frame.payload) := by
  rw [Frame.payload]
  cases text : frame.text with
  | some written => exact .text text (unwished written text)
  | none =>
    cases data : frame.data with
    | some octets => exact .octets text data
    | none => exact .nothing text data

namespace Stage

variable {stage after first last : Stage} {move : Move} {moves : List Move} {relay : Relay}

/-! ## Stopping -/

theorem Step.ended (step : Step stage move after) (ended : stage.Ended relay) :
    after.Ended relay ∧ move.relay? ≠ some relay := by
  cases relay <;> cases step <;> simp_all [Ended, Move.relay?, attempting, enter]

theorem Step.ends (step : Step stage move after) (own : move.relay? = some relay)
    (stops : move.stops = true) : after.Ended relay := by
  cases relay <;> cases step <;> simp_all [Ended, Move.relay?, Move.stops]

/-- A relay ends because it stops or is cancelled. -/
theorem Step.reason (step : Step stage move after) (goes : ¬ stage.Ended relay)
    (ended : after.Ended relay) (readable : ∀ frame, move.frame? = some frame → Readable frame) :
    (move.relay? = some relay ∧ move.stops = true) ∨ move.cancelled? = some relay := by
  cases step with
  | unreadable relaying free text failed =>
    rcases readable _ rfl _ text with ⟨wish?, parsed⟩
    rw [failed] at parsed
    cases parsed
  | outputEnd | outputLost | remoteEnded | cancelOutput | cancelInput =>
    cases relay <;> simp_all [Ended, Move.relay?, Move.stops, Move.cancelled?]
  | @sent arrived | @written arrived =>
    cases relay <;> cases arrived <;> simp_all [Ended, Move.relay?, Move.stops]
  | _ => cases relay <;> simp_all [Ended, attempting, enter]

theorem ended_of_run (ran : run? stage moves = some last) (ended : stage.Ended relay) :
    last.Ended relay ∧ ∀ move ∈ moves, move.relay? ≠ some relay := by
  induction moves generalizing stage with
  | nil =>
    cases ran
    exact ⟨ended, fun move member => by cases member⟩
  | cons move later inductionHypothesis =>
    rcases Option.bind_eq_some_iff.mp ran with ⟨middle, stepped, rest⟩
    have still := (step_of_step? stepped).ended ended
    rcases inductionHypothesis rest still.1 with ⟨endedLast, silent⟩
    refine ⟨endedLast, fun other member => ?_⟩
    rcases List.mem_cons.mp member with rfl | inLater
    · exact still.2
    · exact silent other inLater

/-! ## What is attempted -/

variable {execution : Execution} {history : List State}

theorem execution_of_run (run : Run (start execution history) moves stage) :
    stage.execution = execution := by
  induction run with
  | start => rfl
  | next _ step inductionHypothesis => cases step <;> exact inductionHypothesis

theorem Step.attempts_of_frameless (step : Step stage move after) (frameless : move.frame? = none) :
    attemptsOf (some .input) after.attempts = attemptsOf (some .input) stage.attempts := by
  by_cases own : move.relay? = some .input
  · cases step with
    | remoteEnded | written | resized => rfl
    | wish | typed | unreadable => cases frameless
    | _ => cases own
  · exact step.attemptsOf_of_ne own

theorem Step.attempts_of_unread (step : Step stage move after) (unread : move.octets? = none) :
    attemptsOf (some .output) after.attempts = attemptsOf (some .output) stage.attempts := by
  by_cases own : move.relay? = some .output
  · cases step with
    | outputLost | sent => rfl
    | chunk | outputEnd => cases unread
    | _ => cases own
  · exact step.attemptsOf_of_ne own

/-- The input relay makes one attempt for each frame, in order. -/
theorem carries_of_run (run : Run (start execution history) moves stage)
    (readable : ∀ frame ∈ moves.filterMap Move.frame?, Readable frame) :
    List.Forall₂ (Carries execution.id) (moves.filterMap Move.frame?)
      (attemptsOf (some .input) stage.attempts) := by
  induction run with
  | start => exact .nil
  | @next earlier stage after move run step inductionHypothesis =>
    rw [List.filterMap_append] at readable ⊢
    have carried := inductionHypothesis
      fun frame member => readable frame (List.mem_append_left _ member)
    cases heard : move.frame? with
    | none =>
      rw [step.attempts_of_frameless heard, List.filterMap_cons_none heard, List.filterMap_nil,
        List.append_nil]
      exact carried
    | some frame =>
      rw [List.filterMap_cons_some heard, List.filterMap_nil] at readable ⊢
      cases step with
      | wish relaying free text parsed =>
        cases heard
        change List.Forall₂ _ _ (attemptsOf _ (stage.attempts ++ [_]))
        rw [attemptsOf_append, execution_of_run run]
        exact List.rel_append carried (.cons (.wish text parsed) .nil)
      | typed relaying free unwished =>
        cases heard
        change List.Forall₂ _ _ (attemptsOf _ (stage.attempts ++ [_]))
        rw [attemptsOf_append]
        exact List.rel_append carried (.cons (carries_payload execution.id unwished) .nil)
      | unreadable relaying free text failed =>
        cases heard
        rcases readable _ (List.mem_append_right _ List.mem_cons_self) _ text with
          ⟨wish?, parsed⟩
        rw [failed] at parsed
        cases parsed
      | _ => cases heard

/-- The output relay sends what was read, in order. -/
theorem sends_of_run (run : Run (start execution history) moves stage) :
    attemptsOf (some .output) stage.attempts =
      ((moves.filterMap Move.octets?).filter (· ≠ [])).map .send := by
  induction run with
  | start => rfl
  | @next earlier stage after move run step inductionHypothesis =>
    rw [List.filterMap_append, List.filter_append, List.map_append, ← inductionHypothesis]
    cases read : move.octets? with
    | none =>
      rw [step.attempts_of_unread read, List.filterMap_cons_none read]
      exact (List.append_nil _).symm
    | some octets =>
      rw [List.filterMap_cons_some read, List.filterMap_nil]
      cases step with
      | chunk relaying free full =>
        cases read
        have kept : [octets].filter (· ≠ []) = [octets] := by simp [full]
        change attemptsOf _ (stage.attempts ++ [_]) = _
        rw [attemptsOf_append, kept]
        rfl
      | outputEnd =>
        cases read
        exact (List.append_nil _).symm
      | _ => cases read

theorem reason_of_run (run : Run (start execution history) moves stage)
    (readable : ∀ frame ∈ moves.filterMap Move.frame?, Readable frame)
    (ended : stage.Ended relay) :
    ∃ move ∈ moves,
      (move.relay? = some relay ∧ move.stops = true) ∨ move.cancelled? = some relay := by
  induction run with
  | start => cases relay <;> cases ended
  | @next earlier stage after move run step inductionHypothesis =>
    rw [List.filterMap_append] at readable
    -- Either the relay had ended before the latest move, or it ends by it.
    by_cases before : stage.Ended relay
    · have readableBefore : ∀ frame ∈ earlier.filterMap Move.frame?, Readable frame :=
        fun frame member => readable frame (List.mem_append_left _ member)
      rcases inductionHypothesis readableBefore before with ⟨reason, member, sound⟩
      exact ⟨reason, List.mem_append_left _ member, sound⟩
    · refine ⟨move, List.mem_append_right _ List.mem_cons_self,
        step.reason before ended fun frame heard => readable frame ?_⟩
      rw [List.filterMap_cons_some heard]
      exact List.mem_append_right _ List.mem_cons_self

/-! ## Going on -/

/-- A relay goes on by itself. -/
structure GoesOn (relay : Relay) (stage : Stage) (moves : List Move) (last : Stage) : Prop where
  ran : run? stage moves = some last
  own : ∀ move ∈ moves, move.relay? = some relay

theorem goesOn_nothing (relay : Relay) (stage : Stage) : GoesOn relay stage [] stage where
  ran := rfl
  own := fun move member => by cases member

theorem GoesOn.trans {middle : Stage} {others : List Move}
    (goesOn : GoesOn relay stage moves middle) (goesOnThen : GoesOn relay middle others last) :
    GoesOn relay stage (moves ++ others) last where
  ran := by
    rw [run?_append, goesOn.ran, Option.bind_some, goesOnThen.ran]
  own := by
    intro move member
    rcases List.mem_append.mp member with inFirst | inSecond
    · exact goesOn.own move inFirst
    · exact goesOnThen.own move inSecond

theorem goesOn_of_step (step : Step stage move after) (own : move.relay? = some relay) :
    GoesOn relay stage [move] after where
  ran := by rw [run?_cons_of_step step, run?]
  own := by
    intro other member
    rw [List.mem_singleton.mp member]
    exact own

theorem takes_frame (relaying : stage.relaying = true) (free : stage.input = .receiving)
    {frame : Frame} {levels : Nat} (readable : Readable (frame, levels)) :
    ∃ moves last, GoesOn .input stage moves last ∧
      moves.filterMap Move.frame? = [(frame, levels)] ∧
      last.relaying = true ∧ last.input = .receiving := by
  rcases frame_sorts frame levels with ⟨text, wish, written, parsed⟩ | unwished |
    ⟨text, error, written, failed⟩
  · let taken := ({ stage with input := .resizing }.enter .resizing).attempting
      (.resize stage.execution.id wish.rows wish.columns)
    have received : Step stage (.received frame levels) taken := .wish relaying free written parsed
    have resized : Step taken (.resized true) _ := .resized relaying rfl
    have goesOn := (goesOn_of_step received rfl).trans (goesOn_of_step resized rfl)
    exact ⟨_, _, goesOn, rfl, relaying, rfl⟩
  · let taken := { stage with input := .writing }.attempting (.write frame.payload)
    have received : Step stage (.received frame levels) taken := .typed relaying free unwished
    have wrote : Step taken (.written true) _ := .written relaying rfl
    have goesOn := (goesOn_of_step received rfl).trans (goesOn_of_step wrote rfl)
    exact ⟨_, _, goesOn, rfl, relaying, rfl⟩
  · rcases readable text written with ⟨wish?, parsed⟩
    rw [failed] at parsed
    cases parsed

theorem takes_frames (relaying : stage.relaying = true) (free : stage.input = .receiving)
    (frames : List (Frame × Nat)) (readable : ∀ frame ∈ frames, Readable frame) :
    ∃ moves last, GoesOn .input stage moves last ∧ moves.filterMap Move.frame? = frames := by
  induction frames generalizing stage with
  | nil => exact ⟨[], stage, goesOn_nothing .input stage, rfl⟩
  | cons frame later inductionHypothesis =>
    rcases takes_frame relaying free (readable frame List.mem_cons_self) with
      ⟨first, middle, goesOn, taken, relayingThen, freeThen⟩
    rcases inductionHypothesis relayingThen freeThen
        fun other member => readable other (List.mem_cons_of_mem _ member) with
      ⟨second, last, goesOnThen, takenThen⟩
    refine ⟨first ++ second, last, goesOn.trans goesOnThen, ?_⟩
    rw [List.filterMap_append, taken, takenThen]
    rfl

theorem takes_chunks (relaying : stage.relaying = true) (free : stage.output = .reading)
    (chunks : List (List UInt8)) (full : ∀ chunk ∈ chunks, chunk ≠ []) :
    ∃ moves last, GoesOn .output stage moves last ∧ moves.filterMap Move.octets? = chunks := by
  induction chunks generalizing stage with
  | nil => exact ⟨[], stage, goesOn_nothing .output stage, rfl⟩
  | cons chunk later inductionHypothesis =>
    let taken := { stage with output := .sending }.attempting (.send chunk)
    have read : Step stage (.outputRead chunk) taken :=
      .chunk relaying free (full chunk List.mem_cons_self)
    let freed : Stage := { taken with output := .reading }
    have sent : Step taken (.sent true) freed := .sent relaying rfl
    have relayingThen : freed.relaying = true := relaying
    rcases inductionHypothesis relayingThen rfl
        fun other member => full other (List.mem_cons_of_mem _ member) with
      ⟨moves, last, goesOn, takenThen⟩
    have passed := (goesOn_of_step read rfl).trans (goesOn_of_step sent rfl)
    refine ⟨_, last, passed.trans goesOn, ?_⟩
    rw [List.filterMap_append, takenThen]
    rfl

theorem finishes_frame (relaying : stage.relaying = true) (goes : ¬ stage.Ended .input) :
    ∃ moves last, GoesOn .input stage moves last ∧ moves.filterMap Move.frame? = [] ∧
      last.relaying = true ∧ last.input = .receiving := by
  cases place : stage.input with
  | receiving => exact ⟨[], stage, goesOn_nothing .input stage, rfl, relaying, place⟩
  | writing =>
    have wrote : Step stage (.written true) { stage with input := .receiving } :=
      .written relaying place
    exact ⟨_, _, goesOn_of_step wrote rfl, rfl, relaying, rfl⟩
  | resizing =>
    have resized : Step stage (.resized true)
        ({ stage with input := .receiving }.enter .streaming) := .resized relaying place
    exact ⟨_, _, goesOn_of_step resized rfl, rfl, relaying, rfl⟩
  | ended => exact absurd place goes

theorem finishes_chunk (relaying : stage.relaying = true) (goes : ¬ stage.Ended .output) :
    ∃ moves last, GoesOn .output stage moves last ∧ moves.filterMap Move.octets? = [] ∧
      last.relaying = true ∧ last.output = .reading := by
  cases place : stage.output with
  | reading => exact ⟨[], stage, goesOn_nothing .output stage, rfl, relaying, place⟩
  | sending =>
    have sent : Step stage (.sent true) { stage with output := .reading } := .sent relaying place
    exact ⟨_, _, goesOn_of_step sent rfl, rfl, relaying, rfl⟩
  | ended => exact absurd place goes

end Stage

/-- The outcome of a change of size, forgotten. -/
def Move.unheeding : Move → Move
  | .resized _ => .resized true
  | move => move

theorem run?_unheeding (stage : Stage) (moves : List Move) :
    stage.run? (moves.map Move.unheeding) = stage.run? moves := by
  induction moves generalizing stage with
  | nil => rfl
  | cons move later inductionHypothesis =>
    have same : stage.step? move.unheeding = stage.step? move := by cases move <;> rfl
    rw [List.map_cons, Stage.run?, Stage.run?, same]
    congr 1
    funext middle
    exact inductionHypothesis middle

/-- What was attempted after some moves is what the relays were given, and they stopped
only where they had to. -/
structure Faithful (executionId : String) (moves : List Move) (stage : Stage) : Prop where
  carried : List.Forall₂ (Carries executionId) (moves.filterMap Move.frame?)
    (attemptsOf (some .input) stage.attempts)
  sent : attemptsOf (some .output) stage.attempts =
    ((moves.filterMap Move.octets?).filter (· ≠ [])).map .send
  /-- A relay that has stopped does nothing more. -/
  silent : ∀ relay earlier move later, moves = earlier ++ move :: later →
    move.relay? = some relay → move.stops = true → ∀ other ∈ later, other.relay? ≠ some relay
  reason : ∀ relay, stage.Ended relay → ∃ move ∈ moves,
    (move.relay? = some relay ∧ move.stops = true) ∨ move.cancelled? = some relay

/-- Whatever comes next, a relay that has not ended can take it, until relays are
cancelled. -/
structure Willing (stage : Stage) : Prop where
  input : stage.relaying = true → ¬ stage.Ended .input →
    ∀ frames, (∀ frame ∈ frames, Readable frame) →
      ∃ further last, Stage.GoesOn .input stage further last ∧
        further.filterMap Move.frame? = frames
  output : stage.relaying = true → ¬ stage.Ended .output →
    ∀ chunks, (∀ chunk ∈ chunks, chunk ≠ []) →
      ∃ further last, Stage.GoesOn .output stage further last ∧
        further.filterMap Move.octets? = chunks

variable {execution : Execution} {history : List State} {stage : Stage} {moves : List Move}

theorem silent_of_run {relay : Relay} {earlier later : List Move} {move : Move} {last : Stage}
    (ran : stage.run? (earlier ++ move :: later) = some last)
    (own : move.relay? = some relay) (stops : move.stops = true) :
    ∀ other ∈ later, other.relay? ≠ some relay := by
  rw [Stage.run?_append] at ran
  rcases Option.bind_eq_some_iff.mp ran with ⟨before, -, rest⟩
  rcases Option.bind_eq_some_iff.mp rest with ⟨after, stepped, ranLater⟩
  exact (Stage.ended_of_run ranLater ((Stage.step_of_step? stepped).ends own stops)).2

theorem faithful_of_run (ran : (Stage.start execution history).run? moves = some stage)
    (readable : ∀ frame ∈ moves.filterMap Move.frame?, Readable frame) :
    Faithful execution.id moves stage where
  carried := Stage.carries_of_run (Stage.run_of_run? ran) readable
  sent := Stage.sends_of_run (Stage.run_of_run? ran)
  silent := by
    rintro relay earlier move later rfl own stops
    exact silent_of_run ran own stops
  reason := fun relay ended => Stage.reason_of_run (Stage.run_of_run? ran) readable ended

theorem willing (stage : Stage) : Willing stage where
  input := by
    intro relaying goes frames readable
    rcases Stage.finishes_frame relaying goes with ⟨first, middle, goesOn, none, relayingThen, free⟩
    rcases Stage.takes_frames relayingThen free frames readable with
      ⟨second, last, goesOnThen, taken⟩
    refine ⟨first ++ second, last, goesOn.trans goesOnThen, ?_⟩
    rw [List.filterMap_append, none, taken, List.nil_append]
  output := by
    intro relaying goes chunks full
    rcases Stage.finishes_chunk relaying goes with ⟨first, middle, goesOn, none, relayingThen, free⟩
    rcases Stage.takes_chunks relayingThen free chunks full with ⟨second, last, goesOnThen, taken⟩
    refine ⟨first ++ second, last, goesOn.trans goesOnThen, ?_⟩
    rw [List.filterMap_append, none, taken, List.nil_append]

/-- However the relays interleave with each other and with the end of the session, they
pass on what they are given.  Failing to change the size makes no difference, and a
session that deals with its events in turn is one such run. -/
theorem relays_faithful {σ : Type} (peers : Peers σ) (fleet : Fleet) (hostName : String)
    (execution : Execution) (history : List State) :
    (∀ moves stage, (Stage.start execution history).run? moves = some stage →
      (∀ frame ∈ moves.filterMap Move.frame?, Readable frame) →
      Faithful execution.id moves stage ∧ Willing stage ∧
      ∀ others, others.map Move.unheeding = moves.map Move.unheeding →
        (Stage.start execution history).run? others = some stage) ∧
    (∀ host, fleet.find? hostName = some host →
      ∀ events, (∀ frame ∈ events.flatMap Event.frames, Readable frame) →
      ∀ before, ∃ session effects moves last after,
        Session.handleAll peers fleet hostName (Session.opened execution) events before =
          .ok (session, effects) after ∧
        Plays host.uri events (.start execution (walked 0 false)) before moves session effects last
          after ∧
        Faithful execution.id moves last) := by
  constructor
  · intro moves stage ran readable
    refine ⟨faithful_of_run ran readable, willing stage, fun others same => ?_⟩
    rw [← run?_unheeding, same, run?_unheeding]
    exact ran
  · intro host found events readable before
    rcases plays_events found (agrees_opened execution) ⟨rfl, rfl, rfl⟩ events peers before with
      ⟨session, effects, moves, last, after, ran, plays, -⟩
    refine ⟨session, effects, moves, last, after, ran, plays,
      faithful_of_run plays.happens.ran fun frame member => ?_⟩
    exact readable frame (plays.takesIn.frames.subset member)

/-- A size that could not be changed, between text and octets that cannot be written. -/
theorem relays_faithful_past_failed_resize :
    let wish : Frame := .ofText "\x7b\"type\":\"resize\",\"cols\":80,\"rows\":24\x7d"
    let moves : List Move :=
      [.received (.ofText "ls") 985, .outputRead [36], .written true, .sent true,
        .received wish 985, .resized false, .received (.ofOctets [4]) 985, .outputRead [],
        .written false]
    ∃ stage, (Stage.start ⟨"exec1", "local", "web"⟩ (walked 0 false)).run? moves = some stage ∧
      stage.attempts =
        [.write (Utf8.encodeText "ls"), .send [36], .resize "exec1" 24 80, .write [4]] ∧
      Faithful "exec1" moves stage := by
  intro wish moves
  have readable : ∀ frame ∈ moves.filterMap Move.frame?, Readable frame := by
    intro frame member
    have among : frame ∈ [(Frame.ofText "ls", 985), (wish, 985), (.ofOctets [4], 985)] := member
    simp only [List.mem_cons, List.not_mem_nil, or_false] at among
    rcases among with rfl | rfl | rfl
    · intro text same
      cases same
      exact ⟨none, rfl⟩
    · intro text same
      cases same
      exact ⟨some ⟨80, 24⟩, rfl⟩
    · intro text same
      cases same
  have ran : (Stage.start ⟨"exec1", "local", "web"⟩ (walked 0 false)).run? moves =
      some ⟨⟨"exec1", "local", "web"⟩, .ended, .ended, .notBegun, walked 1 false,
        [.write (Utf8.encodeText "ls"), .send [36], .resize "exec1" 24 80, .write [4]]⟩ := by
    rfl
  have faithful :=
    (relays_faithful Daemon.Stage.peers .empty "local" ⟨"exec1", "local", "web"⟩ _).1 moves _ ran
      readable
  exact ⟨_, ran, rfl, faithful.1⟩

end Interleaving
end Terminal
end ContainerFleet
