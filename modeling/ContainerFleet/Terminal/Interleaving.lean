import ContainerFleet.Terminal.Session

/-!
# Relays that run side by side

The two relays of an open session do not wait for each other.  Each is at one
place of its loop: it waits for something to relay, or for the other side to
take what it has.  As soon as one of them ends, the shell and the remote side
are closed, the other relay is cancelled wherever it is, and only when both
have ended is the session closed.  While the remote side is being closed the
other relay may still go on.

`step?` says what can happen next, and a list of moves is one interleaving of
the relays with the closing.  `Session.handle` is the order in which every
event is dealt with before the next one comes.

`Concludes` puts the opening in front: a session that is over was either never
opened or has gone through some interleaving to its end.
-/

namespace ContainerFleet
namespace Terminal

open Daemon

namespace Interleaving

/-- Where the relay of the shell's output is. -/
inductive OutputRelay where
  | reading
  | sending
  | ended
  deriving DecidableEq, Repr

/-- Where the relay of the remote side's frames is. -/
inductive InputRelay where
  | receiving
  | writing
  | resizing
  | ended
  deriving DecidableEq, Repr

/-- How far the closing has come. -/
inductive Closing where
  /-- Both relays go on, or the end of one has not been noticed. -/
  | notBegun
  /-- The shell is closed and the remote side is being closed. -/
  | underWay
  /-- Both sides are closed; relays that have not ended are cancelled. -/
  | cancelling
  | done
  deriving DecidableEq, Repr

/-- What is attempted at either side.  A write and a change of size are made by
threads, and each counts as attempted when it is handed to its thread.  One that
still waits for a thread when its relay is cancelled is never made. -/
inductive Attempt where
  | tell (text : String)
  | send (octets : List UInt8)
  | write (octets : List UInt8)
  | resize (executionId : String) (rows columns : Int)
  | closeShell
  | closeRemote
  deriving DecidableEq, Repr

namespace Attempt

/-- The request to the daemon that is made first when something is attempted.
What goes to the remote side, and the input of the shell, needs none. -/
def call? : Attempt → Option Call
  | .resize executionId rows columns => some (.resizeExec executionId rows columns)
  | .closeShell => some .shutDownSocket
  | .tell _ | .send _ | .write _ | .closeRemote => none

end Attempt

/-- What was attempted, whether or not it got there. -/
def attemptOf : Effect → Attempt
  | .sendText text _ => .tell text
  | .sendOctets octets _ => .send octets
  | .closeRemote => .closeRemote
  | .writeInput octets _ => .write octets

/-- Both relays and the closing, with the states of the session and the
attempts so far. -/
structure Stage where
  execution : Execution
  output : OutputRelay
  input : InputRelay
  closing : Closing
  history : List State
  attempts : List Attempt
  deriving DecidableEq, Repr

/-- What can happen. -/
inductive Move where
  /-- The shell's output was read; no octets are its end. -/
  | outputRead (octets : List UInt8)
  /-- The shell's output cannot be read. -/
  | outputLost
  /-- Sending came to its end. -/
  | sent (arrived : Bool)
  /-- A frame was received, which is read with so many levels. -/
  | received (frame : Frame) (levels : Nat)
  /-- The remote side has closed or cannot be received from. -/
  | remoteEnded
  /-- Writing came to its end. -/
  | written (arrived : Bool)
  /-- Changing the size came to its end; failing makes no difference. -/
  | resized (changed : Bool)
  /-- The end of a relay is noticed: the shell is closed, well or badly, and
  the closing of the remote side begins. -/
  | beginClosing (closed : Bool)
  /-- The closing of the remote side came to its end, well or badly. -/
  | remoteClosed (closed : Bool)
  | cancelOutput
  | cancelInput
  /-- Both relays have ended. -/
  | finish
  deriving DecidableEq, Repr

namespace Stage

/-- Both relays begin in a session that has been opened and went through some
states on the way. -/
def start (execution : Execution) (history : List State) : Stage :=
  ⟨execution, .reading, .receiving, .notBegun, history, []⟩

/-- The relays are free to go on. -/
def relaying (stage : Stage) : Bool :=
  stage.closing == .notBegun || stage.closing == .underWay

def enter (stage : Stage) (state : State) : Stage :=
  { stage with history := stage.history ++ [state] }

def attempting (stage : Stage) (attempt : Attempt) : Stage :=
  { stage with attempts := stage.attempts ++ [attempt] }

/-- Begin to relay octets that were read from the shell. -/
def takeOutput (stage : Stage) (octets : List UInt8) : Stage :=
  if octets.isEmpty then { stage with output := .ended }
  else { stage with output := .sending }.attempting (.send octets)

/-- Begin to deal with a frame that was received. -/
def takeFrame (stage : Stage) (frame : Frame) (levels : Nat) : Stage :=
  match frame.text.map fun text => Resize.ofText text levels with
  | some (.ok (some wish)) =>
    ({ stage with input := .resizing }.enter .resizing).attempting
      (.resize stage.execution.id wish.rows wish.columns)
  | some (.error _) => { stage with input := .ended }
  | _ => { stage with input := .writing }.attempting (.write frame.payload)

/-- The stage after a move of the output relay. -/
def outputStep? (stage : Stage) : Move → Option Stage
  | .outputRead octets =>
    if stage.relaying && stage.output == .reading then some (stage.takeOutput octets) else none
  | .outputLost =>
    if stage.relaying && stage.output == .reading then some { stage with output := .ended }
    else none
  | .sent arrived =>
    if stage.relaying && stage.output == .sending then
      some { stage with output := if arrived then .reading else .ended }
    else none
  | _ => none

/-- The stage after a move of the input relay. -/
def inputStep? (stage : Stage) : Move → Option Stage
  | .received frame levels =>
    if stage.relaying && stage.input == .receiving then some (stage.takeFrame frame levels)
    else none
  | .remoteEnded =>
    if stage.relaying && stage.input == .receiving then some { stage with input := .ended }
    else none
  | .written arrived =>
    if stage.relaying && stage.input == .writing then
      some { stage with input := if arrived then .receiving else .ended }
    else none
  | .resized _ =>
    if stage.relaying && stage.input == .resizing then
      some ({ stage with input := .receiving }.enter .streaming)
    else none
  | _ => none

/-- The stage after a step of the closing. -/
def closingStep? (stage : Stage) : Move → Option Stage
  | .beginClosing _ =>
    if stage.closing == .notBegun && (stage.output == .ended || stage.input == .ended) then
      some (({ stage with closing := .underWay }.attempting .closeShell).attempting .closeRemote)
    else none
  | .remoteClosed _ =>
    if stage.closing == .underWay then some { stage with closing := .cancelling } else none
  | .cancelOutput =>
    if stage.closing == .cancelling then some { stage with output := .ended } else none
  | .cancelInput =>
    if stage.closing == .cancelling then some { stage with input := .ended } else none
  | .finish =>
    if stage.closing == .cancelling && stage.output == .ended && stage.input == .ended then
      some ({ stage with closing := .done }.enter .closed)
    else none
  | _ => none

/-- The stage after a move, none where the move is not possible. -/
def step? (stage : Stage) (move : Move) : Option Stage :=
  ((stage.outputStep? move).or (stage.inputStep? move)).or (stage.closingStep? move)

/-- The stage after some moves, none where one of them is not possible. -/
def run? : Stage → List Move → Option Stage
  | stage, [] => some stage
  | stage, move :: later => (stage.step? move).bind fun stage => run? stage later

/-- The stage can arise in a session that has been opened. -/
def Arises (stage : Stage) (execution : Execution) (history : List State) : Prop :=
  ∃ moves, run? (start execution history) moves = some stage

theorem run?_append (stage : Stage) (first second : List Move) :
    run? stage (first ++ second) =
      (run? stage first).bind fun stage => run? stage second := by
  induction first generalizing stage with
  | nil => rfl
  | cons move later inductive_step =>
    simp only [List.cons_append, run?, Option.bind_assoc, inductive_step]

end Stage

/-- A session that is over: the states it went through, why it could not be
opened, if so, and what was attempted at either side. -/
structure Past where
  history : List State
  fault : Option Fault
  attempts : List Attempt

variable {σ : Type} (peers : Peers σ)

/-- A session that is started can be over like this. -/
inductive Concludes (fleet : Fleet) (hostName containerId : String) (textArrives : Bool)
    (before : Exchange σ) : Past → Prop
  /-- It could not be opened. -/
  | unopened {session : Session} {effects : List Effect} {after : Exchange σ} :
      Session.openOn peers fleet hostName containerId textArrives before =
        .ok (session, effects) after →
      session.isClosed = true →
      Concludes fleet hostName containerId textArrives before
        ⟨session.history, session.fault, effects.map attemptOf⟩
  /-- It was opened, and its relays came to their end. -/
  | relayed {session : Session} {effects : List Effect} {after : Exchange σ}
      {execution : Execution} {stage : Stage} :
      Session.openOn peers fleet hostName containerId textArrives before =
        .ok (session, effects) after →
      session.isClosed = false →
      session.execution = some execution →
      stage.Arises execution session.history →
      stage.closing = .done →
      Concludes fleet hostName containerId textArrives before
        ⟨stage.history, session.fault, effects.map attemptOf ++ stage.attempts⟩

end Interleaving
end Terminal
end ContainerFleet
