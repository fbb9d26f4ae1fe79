import ContainerFleet.Proofs.Terminal.Lifecycle
import ContainerFleet.Proofs.Terminal.Opening

/-!
# Events that are dealt with in turn

A session that deals with every event before the next one comes is one interleaving of
its relays.  Each event is some moves: what was received or read, how relaying it came
out, and, where a relay has ended by it, all of the closing.  The session does what is
attempted in these moves, and asks the daemon for it, in the same order.
-/

namespace ContainerFleet
namespace Terminal

open Daemon

namespace Event

/-- The frames that come with an event, each with the levels with which it is read. -/
def frames : Event → List (Frame × Nat)
  | .remoteFrame frame levels => [(frame, levels)]
  | _ => []

/-- The pieces in which output is read. -/
def pieces : Event → List (List UInt8)
  | .output octets => Session.chunks octets
  | _ => []

end Event

namespace Interleaving

variable {σ : Type}

/-- The socket of a shell is closed after it was shut down, which can fail. -/
def closesSocket : Call → Bool
  | .closeSocket => true
  | _ => false

/-- Between two exchanges the daemon at `uri` was asked for what was attempted. -/
def Asked (uri : String) (before after : Exchange σ) (attempts : List Attempt) : Prop :=
  ∃ calls : List Call, after.calls = (calls.map (Prod.mk uri)).reverse ++ before.calls ∧
    (calls.filter fun call => !closesSocket call) = attempts.filterMap Attempt.call?

theorem asked_nothing {uri : String} {exchange : Exchange σ} {attempts : List Attempt}
    (unasked : attempts.filterMap Attempt.call? = []) : Asked uri exchange exchange attempts :=
  ⟨[], rfl, unasked.symm⟩

theorem Asked.trans {uri : String} {before middle after : Exchange σ}
    {first second : List Attempt} (askedFirst : Asked uri before middle first)
    (askedSecond : Asked uri middle after second) : Asked uri before after (first ++ second) := by
  rcases askedFirst with ⟨calls, made, asked⟩
  rcases askedSecond with ⟨others, madeThen, askedThen⟩
  refine ⟨calls ++ others, ?_, ?_⟩
  · rw [madeThen, made, List.map_append, List.reverse_append, List.append_assoc]
  · rw [List.filter_append, asked, askedThen, List.filterMap_append]

/-- A session does some things while its relays make some moves. -/
structure Happens (uri : String) (stage : Stage) (before : Exchange σ) (moves : List Move)
    (effects : List Effect) (last : Stage) (after : Exchange σ) : Prop where
  ran : stage.run? moves = some last
  attempts : ∃ attempts, last.attempts = stage.attempts ++ attempts ∧
    effects.map attemptOf = (attempts.filter fun attempt => attempt.call?.isNone) ∧
    Asked uri before after attempts

variable {uri : String} {stage middle last : Stage} {before between after : Exchange σ}

theorem happens_nothing (uri : String) (stage : Stage) (exchange : Exchange σ) :
    Happens uri stage exchange [] [] stage exchange :=
  ⟨rfl, [], (List.append_nil _).symm, rfl, asked_nothing rfl⟩

theorem Happens.trans {first second : List Move} {effects others : List Effect}
    (happens : Happens uri stage before first effects middle between)
    (happensThen : Happens uri middle between second others last after) :
    Happens uri stage before (first ++ second) (effects ++ others) last after := by
  rcases happens.attempts with ⟨attempts, added, done, asked⟩
  rcases happensThen.attempts with ⟨further, addedThen, doneThen, askedThen⟩
  refine ⟨?_, attempts ++ further, ?_, ?_, asked.trans askedThen⟩
  · rw [Stage.run?_append, happens.ran, Option.bind_some, happensThen.ran]
  · rw [addedThen, added, List.append_assoc]
  · rw [List.map_append, List.filter_append, done, doneThen]

/-- Moves that ask the daemon for nothing. -/
theorem happens_unasked {moves : List Move} {effects : List Effect} (exchange : Exchange σ)
    (ran : stage.run? moves = some last)
    (attempts : last.attempts = stage.attempts ++ effects.map attemptOf) :
    Happens uri stage exchange moves effects last exchange := by
  have none : ∀ effect : Effect, (attemptOf effect).call? = none := by
    intro effect
    cases effect <;> rfl
  refine ⟨ran, effects.map attemptOf, attempts, ?_, asked_nothing ?_⟩
  · rw [List.filter_eq_self.mpr]
    intro attempt member
    rcases List.mem_map.mp member with ⟨effect, -, rfl⟩
    rw [none, Option.isNone_none]
  · rw [List.filterMap_map, List.filterMap_eq_nil_iff]
    intro effect _
    exact none effect

/-- Both relays wait for something to relay. -/
def Waits (stage : Stage) : Prop :=
  stage.output = .reading ∧ stage.input = .receiving ∧ stage.closing = .notBegun

theorem Waits.relaying (waits : Waits stage) : stage.relaying = true := by
  simp [Stage.relaying, waits.2.2]

/-- A session is where its relays are. -/
structure Agrees (session : Session) (stage : Stage) : Prop where
  execution : session.execution = some stage.execution
  fault : session.fault = none
  history : session.history = stage.history
  closed : session.isClosed = true ↔ stage.closing = .done

theorem agrees_opened (execution : Execution) :
    Agrees (Session.opened execution) (.start execution (walked 0 false)) where
  execution := rfl
  fault := rfl
  history := rfl
  closed := by simp [Session.isClosed, Session.state, Session.opened, Stage.start]

/-- The moves take in all that an event brings. -/
structure Exhausts (events : List Event) (moves : List Move) : Prop where
  frames : moves.filterMap Move.frame? = events.flatMap Event.frames
  pieces : moves.filterMap Move.octets? = events.flatMap Event.pieces

/-- The moves take in what events bring, up to some point. -/
structure TakesIn (events : List Event) (moves : List Move) : Prop where
  frames : moves.filterMap Move.frame? <+: events.flatMap Event.frames
  pieces : moves.filterMap Move.octets? <+: events.flatMap Event.pieces

theorem Exhausts.takesIn {events : List Event} {moves : List Move}
    (exhausts : Exhausts events moves) : TakesIn events moves :=
  ⟨exhausts.frames ▸ List.prefix_refl _, exhausts.pieces ▸ List.prefix_refl _⟩

theorem Exhausts.append {events later : List Event} {moves others : List Move}
    (exhausts : Exhausts events moves) (takesIn : TakesIn later others) :
    TakesIn (events ++ later) (moves ++ others) where
  frames := by
    rw [List.filterMap_append, List.flatMap_append, exhausts.frames]
    exact (List.prefix_append_right_inj _).mpr takesIn.frames
  pieces := by
    rw [List.filterMap_append, List.flatMap_append, exhausts.pieces]
    exact (List.prefix_append_right_inj _).mpr takesIn.pieces

theorem TakesIn.append {events : List Event} {moves : List Move} (takesIn : TakesIn events moves)
    (later : List Event) : TakesIn (events ++ later) moves where
  frames := by
    rw [List.flatMap_append]
    exact takesIn.frames.trans (List.prefix_append _ _)
  pieces := by
    rw [List.flatMap_append]
    exact takesIn.pieces.trans (List.prefix_append _ _)

/-! ## One event -/

/-- A session comes through some events while its relays make some moves. -/
structure Plays (uri : String) (events : List Event) (stage : Stage) (before : Exchange σ)
    (moves : List Move) (next : Session) (effects : List Effect) (last : Stage)
    (after : Exchange σ) : Prop where
  happens : Happens uri stage before moves effects last after
  agrees : Agrees next last
  takesIn : TakesIn events moves

/-- Relaying one event is some moves of the relays, after which they wait again or one
of them has ended. -/
def Relays (uri : String) (event : Event) (stage : Stage) (before : Exchange σ)
    (relayed : Session.Relayed) (after : Exchange σ) : Prop :=
  ∃ moves last, Plays uri [event] stage before moves relayed.session relayed.effects last after ∧
    ((relayed.goesOn = true ∧ Waits last ∧ Exhausts [event] moves ∧ event ≠ .remoteEnded) ∨
      (relayed.goesOn = false ∧ last.closing = .notBegun ∧ ∃ relay, last.Ended relay))

variable {session : Session} {peers : Peers σ} {host : Host} {frame : Frame} {levels : Nat}

theorem relays_end {event : Event} {move : Move} (relay : Relay) (agrees : Agrees session stage)
    (waits : Waits stage) (step : Stage.Step stage move last)
    (attempts : last.attempts = stage.attempts) (history : last.history = stage.history)
    (execution : last.execution = stage.execution) (closing : last.closing = stage.closing)
    (ended : last.Ended relay) (takesIn : TakesIn [event] [move]) (exchange : Exchange σ) :
    Relays uri event stage exchange ⟨session, [], false⟩ exchange := by
  refine ⟨[move], last, ⟨happens_unasked exchange ?_ ?_, ⟨?_, agrees.fault, ?_, ?_⟩, takesIn⟩,
    .inr ⟨rfl, ?_, relay, ended⟩⟩
  · rw [Stage.run?_cons_of_step step, Stage.run?]
  · rw [attempts, List.map_nil, List.append_nil]
  · rw [execution]
    exact agrees.execution
  · rw [history]
    exact agrees.history
  · rw [closing]
    exact agrees.closed
  · rw [closing]
    exact waits.2.2

theorem relays_notice {event : Event} (agrees : Agrees session stage) (waits : Waits stage)
    (exhausts : Exhausts [event] []) (other : event ≠ .remoteEnded) (exchange : Exchange σ) :
    Relays uri event stage exchange ⟨session, [], true⟩ exchange :=
  ⟨[], stage, ⟨happens_nothing uri stage exchange, agrees, exhausts.takesIn⟩,
    .inl ⟨rfl, waits, exhausts, other⟩⟩

theorem relays_written (agrees : Agrees session stage) (waits : Waits stage)
    (unwished : ∀ text, frame.text = some text → Resize.ofText text levels = .ok none)
    (exchange : Exchange σ) :
    Relays uri (.remoteFrame frame levels) stage exchange (session.writeInput frame.payload)
      exchange := by
  let taken : Stage := { stage with input := .writing }.attempting (.write frame.payload)
  have received : Stage.Step stage (.received frame levels) taken :=
    .typed waits.relaying waits.2.1 unwished
  let final : Stage :=
    { taken with input := if !session.inputFails then .receiving else .ended }
  have written : Stage.Step taken (.written !session.inputFails) final :=
    .written waits.relaying rfl
  refine ⟨[.received frame levels, .written !session.inputFails], final,
    ⟨happens_unasked exchange ?_ rfl,
      ⟨agrees.execution, agrees.fault, agrees.history, agrees.closed⟩,
      ⟨List.prefix_refl _, List.prefix_refl _⟩⟩, ?_⟩
  · rw [Stage.run?_cons_of_step received, Stage.run?_cons_of_step written, Stage.run?]
  · cases fails : session.inputFails with
    | false =>
      refine .inl ⟨by simp [Session.writeInput, fails], ⟨waits.1, ?_, waits.2.2⟩, ⟨rfl, rfl⟩,
        Event.noConfusion⟩
      simp [final, fails]
    | true =>
      refine .inr ⟨by simp [Session.writeInput, fails], waits.2.2, .input, ?_⟩
      simp [Stage.Ended, final, fails]

/-- The daemon is asked for the change of size, and what it answers is passed over. -/
theorem resize_ran {execution : Execution} (running : session.execution = some execution)
    (peers : Peers σ) (host : Host) (wish : Resize) (before : Exchange σ) :
    ∃ after, session.resize peers host wish before =
        .ok ((session.enter .resizing).enter .streaming) after ∧
      after.calls =
        (host.uri, .resizeExec execution.id wish.rows wish.columns) :: before.calls := by
  rcases attempt_request peers host.uri
      (.resizeExec execution.id wish.rows wish.columns) before with
    ⟨answer, after, asked, calls⟩
  refine ⟨after, ?_, calls⟩
  have ignored : ignoring (resizeExec peers host execution.id wish.rows wish.columns) before =
      .ok () after := by
    rw [ignoring, resizeExec, bind_of_ran asked]
    rfl
  rw [Session.resize, running]
  exact bind_of_ran ignored

theorem relays_resized {text : String} {wish : Resize} (agrees : Agrees session stage)
    (waits : Waits stage) (written : frame.text = some text)
    (parsed : Resize.ofText text levels = .ok (some wish))
    (calls : after.calls =
      (uri, .resizeExec stage.execution.id wish.rows wish.columns) :: before.calls) :
    Relays uri (.remoteFrame frame levels) stage before
      ⟨(session.enter .resizing).enter .streaming, [], true⟩ after := by
  let taken : Stage := ({ stage with input := .resizing }.enter .resizing).attempting
    (.resize stage.execution.id wish.rows wish.columns)
  let final : Stage := { taken with input := .receiving }.enter .streaming
  have received : Stage.Step stage (.received frame levels) taken :=
    .wish waits.relaying waits.2.1 written parsed
  have resized : Stage.Step taken (.resized true) final := .resized waits.relaying rfl
  refine ⟨[.received frame levels, .resized true], final, ⟨⟨?_, _, rfl, rfl, ?_⟩,
    ⟨agrees.execution, agrees.fault, ?_, ?_⟩, ⟨List.prefix_refl _, List.prefix_refl _⟩⟩,
    .inl ⟨rfl, ⟨waits.1, rfl, waits.2.2⟩, ⟨rfl, rfl⟩, Event.noConfusion⟩⟩
  · rw [Stage.run?_cons_of_step received, Stage.run?_cons_of_step resized, Stage.run?]
  · exact ⟨[.resizeExec stage.execution.id wish.rows wish.columns], calls, rfl⟩
  · simp [Session.enter, final, taken, Stage.enter, Stage.attempting, agrees.history]
  · simp [Session.isClosed, Session.state, Session.enter, final, taken, Stage.enter,
      Stage.attempting, waits.2.2]

theorem sends (waits : Waits stage) (piece : List UInt8) (full : piece ≠ []) (arrived : Bool)
    (exchange : Exchange σ) :
    Happens uri stage exchange [.outputRead piece, .sent arrived] [.sendOctets piece arrived]
      { stage with
        output := if arrived then .reading else .ended
        attempts := stage.attempts ++ [.send piece] } exchange := by
  let taken : Stage := { stage with output := .sending }.attempting (.send piece)
  have read : Stage.Step stage (.outputRead piece) taken := .chunk waits.relaying waits.1 full
  have sent : Stage.Step taken (.sent arrived)
      { taken with output := if arrived then .reading else .ended } := .sent waits.relaying rfl
  refine happens_unasked exchange ?_ rfl
  rw [Stage.run?_cons_of_step read, Stage.run?_cons_of_step sent, Stage.run?]
  rfl

/-- Pieces that all arrive. -/
theorem sends_all (uri : String) {pieces : List (List UInt8)} (agrees : Agrees session stage)
    (waits : Waits stage) (full : ∀ piece ∈ pieces, piece ≠ []) (exchange : Exchange σ) :
    ∃ moves last, Happens uri stage exchange moves (pieces.map fun piece => .sendOctets piece true)
        last exchange ∧ Agrees session last ∧ Waits last ∧
      moves.filterMap Move.frame? = [] ∧ moves.filterMap Move.octets? = pieces := by
  induction pieces generalizing stage with
  | nil => exact ⟨[], stage, happens_nothing uri stage exchange, agrees, waits, rfl, rfl⟩
  | cons piece later inductionHypothesis =>
    let middle : Stage :=
      { stage with output := .reading, attempts := stage.attempts ++ [.send piece] }
    have first : Happens uri stage exchange [.outputRead piece, .sent true]
        [.sendOctets piece true] middle exchange :=
      sends waits piece (full piece List.mem_cons_self) true exchange
    have agreesThen : Agrees session middle :=
      ⟨agrees.execution, agrees.fault, agrees.history, agrees.closed⟩
    rcases inductionHypothesis agreesThen ⟨rfl, waits.2⟩
        fun other member => full other (List.mem_cons_of_mem _ member) with
      ⟨moves, last, happens, agreesLast, waitsLast, noFrames, pieces⟩
    refine ⟨_, last, first.trans happens, agreesLast, waitsLast, ?_, ?_⟩
    · rw [List.filterMap_append, noFrames]
      rfl
    · rw [List.filterMap_append, pieces]
      rfl

theorem ne_nil_of_mem_chunks {octets piece : List UInt8}
    (member : piece ∈ Session.chunks octets) : piece ≠ [] := by
  induction octets using Session.chunks.induct with
  | case1 octets empty =>
    rw [Session.chunks, if_pos empty] at member
    cases member
  | case2 octets notEmpty inductionHypothesis =>
    rw [Session.chunks, if_neg notEmpty] at member
    rcases List.mem_cons.mp member with rfl | later
    · intro none
      rw [List.take_eq_nil_iff] at none
      rcases none with none | none
      · cases none
      · exact notEmpty (List.isEmpty_iff.mpr none)
    · exact inductionHypothesis later

theorem relays_output (agrees : Agrees session stage) (waits : Waits stage) (octets : List UInt8)
    (exchange : Exchange σ) :
    Relays uri (.output octets) stage exchange (session.sendChunks (Session.chunks octets))
      exchange := by
  have takes : [Event.output octets].flatMap Event.pieces = Session.chunks octets :=
    List.append_nil _
  cases fails : session.sendingFails with
  | false =>
    rcases sends_all uri agrees waits (fun _ => ne_nil_of_mem_chunks) exchange with
      ⟨moves, last, happens, agreesLast, waitsLast, noFrames, pieces⟩
    have exhausts : Exhausts [.output octets] moves := ⟨noFrames, pieces.trans takes.symm⟩
    rw [Session.sendChunks, fails]
    exact ⟨moves, last, ⟨happens, agreesLast, exhausts.takesIn⟩,
      .inl ⟨rfl, waitsLast, exhausts, Event.noConfusion⟩⟩
  | true =>
    rw [Session.sendChunks, fails]
    cases pieces : Session.chunks octets with
    | nil =>
      exact relays_notice agrees waits ⟨rfl, by rw [takes, pieces]; rfl⟩ Event.noConfusion exchange
    | cons piece later =>
      have first : piece ∈ Session.chunks octets := by
        rw [pieces]
        exact List.mem_cons_self
      have full : piece ≠ [] := ne_nil_of_mem_chunks first
      refine ⟨_, _, ⟨sends waits piece full false exchange,
        ⟨agrees.execution, agrees.fault, agrees.history, agrees.closed⟩, ⟨List.prefix_refl _, ?_⟩⟩,
        .inr ⟨rfl, waits.2.2, .output, rfl⟩⟩
      rw [takes, pieces]
      exact ⟨later, rfl⟩

theorem relays_frame (agrees : Agrees session stage) (waits : Waits stage) (frame : Frame)
    (levels : Nat) (peers : Peers σ) (host : Host) (before : Exchange σ) :
    ∃ relayed after, session.takeFrame peers host frame levels before = .ok relayed after ∧
      Relays host.uri (.remoteFrame frame levels) stage before relayed after := by
  rcases frame_sorts frame levels with ⟨text, wish, written, parsed⟩ | unwished |
    ⟨text, error, written, failed⟩
  · rcases resize_ran agrees.execution peers host wish before with ⟨after, resized, calls⟩
    refine ⟨_, after, ?_, relays_resized agrees waits written parsed calls⟩
    rw [Session.takeFrame, written, Option.map_some, parsed]
    exact bind_of_ran resized
  · refine ⟨_, before, ?_, relays_written agrees waits unwished before⟩
    rw [Session.takeFrame]
    cases text : frame.text with
    | none => rfl
    | some written =>
      rw [Option.map_some, unwished written text]
      rfl
  · have unreadable : Stage.Step stage (.received frame levels) { stage with input := .ended } :=
      .unreadable waits.relaying waits.2.1 written failed
    refine ⟨_, before, ?_, relays_end .input agrees waits unreadable rfl rfl rfl rfl rfl
      ⟨List.prefix_refl _, List.prefix_refl _⟩ before⟩
    rw [Session.takeFrame, written, Option.map_some, failed]
    rfl

theorem relays_event (agrees : Agrees session stage) (waits : Waits stage) (event : Event)
    (peers : Peers σ) (host : Host) (before : Exchange σ) :
    ∃ relayed after, session.relay peers host event before = .ok relayed after ∧
      Relays host.uri event stage before relayed after := by
  cases event with
  | remoteFrame frame levels => exact relays_frame agrees waits frame levels peers host before
  | remoteEnded =>
    have ended : Stage.Step stage .remoteEnded { stage with input := .ended } :=
      .remoteEnded waits.relaying waits.2.1
    exact ⟨_, before, rfl, relays_end .input agrees waits ended rfl rfl rfl rfl rfl
      ⟨List.prefix_refl _, List.prefix_refl _⟩ before⟩
  | output octets => exact ⟨_, before, rfl, relays_output agrees waits octets before⟩
  | outputEnded =>
    have lost : Stage.Step stage .outputLost { stage with output := .ended } :=
      .outputLost waits.relaying waits.1
    exact ⟨_, before, rfl, relays_end .output agrees waits lost rfl rfl rfl rfl rfl
      ⟨List.prefix_refl _, List.prefix_refl _⟩ before⟩
  | inputFails | sendingFails =>
    have agreesStill : ∀ inputFails sendingFails, Agrees
        { session with inputFails := inputFails, sendingFails := sendingFails } stage :=
      fun _ _ => ⟨agrees.execution, agrees.fault, agrees.history, agrees.closed⟩
    exact ⟨_, before, rfl,
      relays_notice (agreesStill _ _) waits ⟨rfl, rfl⟩ Event.noConfusion before⟩

/-! ## The closing -/

/-- The closing from the moment when the end of a relay is noticed. -/
def closingMoves : List Move :=
  [.beginClosing true, .remoteClosed true, .cancelOutput, .cancelInput, .finish]

theorem TakesIn.closed {events : List Event} {moves : List Move} (takesIn : TakesIn events moves) :
    TakesIn events (moves ++ closingMoves) where
  frames := by
    have none : closingMoves.filterMap Move.frame? = [] := rfl
    rw [List.filterMap_append, none, List.append_nil]
    exact takesIn.frames
  pieces := by
    have none : closingMoves.filterMap Move.octets? = [] := rfl
    rw [List.filterMap_append, none, List.append_nil]
    exact takesIn.pieces

/-- The socket of the shell is closed unless shutting it down fails in a way that is
passed on. -/
theorem closeExec_cases (peers : Peers σ) (host : Host) (before : Exchange σ) :
    ∃ middle, middle.calls = (host.uri, .shutDownSocket) :: before.calls ∧
      ((∃ error, attempt (closeExec peers host) before = .ok (.error error) middle) ∨
        attempt (closeExec peers host) before =
          attempt (peers.request host.uri .closeSocket) middle) := by
  rcases attempt_request peers host.uri .shutDownSocket before with ⟨answer, middle, asked, calls⟩
  refine ⟨middle, calls, ?_⟩
  cases answer with
  | ok done =>
    refine .inr (attempt_of_eq ?_)
    rw [closeExec, bind_of_ran asked]
    rfl
  | error error =>
    cases system : error.kind.isSystem with
    | true =>
      refine .inr (attempt_of_eq ?_)
      rw [closeExec, bind_of_ran asked]
      dsimp only [Except.mapError]
      rw [if_pos system]
    | false =>
      refine .inl ⟨.peer error, ?_⟩
      have failed : closeExec peers host before = .error (.peer error) middle := by
        rw [closeExec, bind_of_ran asked]
        dsimp only [Except.mapError]
        rw [if_neg (by simp [system])]
        rfl
      rw [attempt, failed]

theorem tearDown_ran (session : Session) (peers : Peers σ) (host : Host) (before : Exchange σ) :
    ∃ after, session.tearDown peers host before =
        .ok (session.enter .closed, [.closeRemote]) after ∧
      Asked host.uri before after [.closeShell, .closeRemote] := by
  -- Closing the shell may fail; the session is closed all the same.
  have tornDown : ∀ {outcome after}, attempt (closeExec peers host) before = .ok outcome after →
      session.tearDown peers host before = .ok (session.enter .closed, [.closeRemote]) after := by
    intro outcome after closed
    have ignored : ignoring (closeExec peers host) before = .ok () after := by
      rw [ignoring, bind_of_ran closed]
      rfl
    rw [Session.tearDown, bind_of_ran ignored]
    rfl
  rcases closeExec_cases peers host before with ⟨middle, calls, ⟨error, failed⟩ | further⟩
  · exact ⟨middle, tornDown failed, [.shutDownSocket], calls, rfl⟩
  · rcases attempt_request peers host.uri .closeSocket middle with ⟨answer, after, asked, callsThen⟩
    refine ⟨after, tornDown (further.trans asked), [.shutDownSocket, .closeSocket], ?_, rfl⟩
    rw [callsThen, calls]
    rfl

theorem plays_closing (agrees : Agrees session stage) (notBegun : stage.closing = .notBegun)
    (ended : ∃ relay, stage.Ended relay) (peers : Peers σ) (host : Host) (before : Exchange σ) :
    ∃ next effects last after, session.tearDown peers host before = .ok (next, effects) after ∧
      Plays host.uri [] stage before closingMoves next effects last after ∧
      last.closing = .done := by
  rcases tearDown_ran session peers host before with ⟨after, tornDown, asked⟩
  let last : Stage :=
    { stage with
      output := .ended
      input := .ended
      closing := .done
      history := stage.history ++ [.closed]
      attempts := stage.attempts ++ [.closeShell] ++ [.closeRemote] }
  have noticed : stage.output = .ended ∨ stage.input = .ended := by
    rcases ended with ⟨relay, ended⟩
    cases relay with
    | output => exact .inl ended
    | input => exact .inr ended
  have begins : Stage.Step stage (.beginClosing true) _ := .beginClosing notBegun noticed
  have ran : stage.run? closingMoves = some last := by
    rw [closingMoves, Stage.run?_cons_of_step begins, Stage.run?_cons_of_step (.remoteClosed rfl),
      Stage.run?_cons_of_step (.cancelOutput rfl), Stage.run?_cons_of_step (.cancelInput rfl),
      Stage.run?_cons_of_step (.finish rfl rfl rfl), Stage.run?]
    rfl
  refine ⟨_, _, last, after, tornDown, ⟨⟨ran, _, ?_, rfl, asked⟩,
    ⟨agrees.execution, agrees.fault, ?_, ?_⟩, ⟨List.prefix_refl _, List.prefix_refl _⟩⟩, rfl⟩
  · simp [last]
  · simp [Session.enter, agrees.history, last]
  · simp [Session.isClosed, Session.state, Session.enter, last]

/-! ## All events -/

theorem Plays.trans {events later : List Event} {first second : List Move}
    {next final : Session} {effects others : List Effect}
    (plays : Plays uri events stage before first next effects middle between)
    (exhausts : Exhausts events first)
    (playsThen : Plays uri later middle between second final others last after) :
    Plays uri (events ++ later) stage before (first ++ second) final (effects ++ others) last
      after where
  happens := plays.happens.trans playsThen.happens
  agrees := playsThen.agrees
  takesIn := exhausts.append playsThen.takesIn

theorem plays_event {fleet : Fleet} {hostName : String} (found : fleet.find? hostName = some host)
    (agrees : Agrees session stage) (waits : Waits stage) (event : Event) (peers : Peers σ)
    (before : Exchange σ) :
    ∃ next effects moves last after,
      session.handle peers fleet hostName event before = .ok (next, effects) after ∧
      Plays host.uri [event] stage before moves next effects last after ∧
      (last.closing = .done ∨ Waits last ∧ Exhausts [event] moves ∧ event ≠ .remoteEnded) := by
  have isOpen : session.isClosed = false := by
    rw [← Bool.not_eq_true, agrees.closed, waits.2.2]
    simp
  rcases relays_event agrees waits event peers host before with
    ⟨relayed, middle, ran, moves, last, plays, goesOn | ends⟩
  · refine ⟨relayed.session, relayed.effects, moves, last, middle, ?_, plays, .inr goesOn.2⟩
    rw [Session.handle, isOpen, found]
    dsimp only
    rw [bind_of_ran ran, if_pos goesOn.1]
    rfl
  · rcases plays_closing plays.agrees ends.2.1 ends.2.2 peers host middle with
      ⟨next, effects, final, after, tornDown, closing, done⟩
    refine ⟨next, relayed.effects ++ effects, moves ++ closingMoves, final, after, ?_,
      ⟨plays.happens.trans closing.happens, closing.agrees, ?_⟩, .inl done⟩
    · rw [Session.handle, isOpen, found]
      dsimp only
      rw [bind_of_ran ran, if_neg (by simp [ends.1]), bind_of_ran tornDown]
      rfl
    · exact plays.takesIn.closed

theorem handle_of_closed (closed : session.isClosed = true) (peers : Peers σ) (fleet : Fleet)
    (hostName : String) (event : Event) (before : Exchange σ) :
    session.handle peers fleet hostName event before = .ok (session, []) before := by
  rw [Session.handle, closed]
  rfl

theorem handleAll_of_closed (closed : session.isClosed = true) (peers : Peers σ) (fleet : Fleet)
    (hostName : String) (events : List Event) (before : Exchange σ) :
    Session.handleAll peers fleet hostName session events before = .ok (session, []) before := by
  induction events with
  | nil => rfl
  | cons event later inductionHypothesis =>
    rw [Session.handleAll, bind_of_ran (handle_of_closed closed peers fleet hostName event before)]
    dsimp only
    rw [bind_of_ran inductionHypothesis]
    rfl

/-- Dealing with events in turn is one interleaving of the relays.  It ends in a closed
session if the remote side ends. -/
theorem plays_events {fleet : Fleet} {hostName : String} (found : fleet.find? hostName = some host)
    (agrees : Agrees session stage) (waits : Waits stage) (events : List Event) (peers : Peers σ)
    (before : Exchange σ) :
    ∃ next effects moves last after,
      Session.handleAll peers fleet hostName session events before = .ok (next, effects) after ∧
      Plays host.uri events stage before moves next effects last after ∧
      (.remoteEnded ∈ events → last.closing = .done) := by
  induction events generalizing session stage before with
  | nil =>
    exact ⟨session, [], [], stage, before, rfl,
      ⟨happens_nothing host.uri stage before, agrees, ⟨List.prefix_refl _, List.prefix_refl _⟩⟩,
      fun member => by cases member⟩
  | cons event later inductionHypothesis =>
    rcases plays_event found agrees waits event peers before with
      ⟨next, effects, moves, last, middle, ran, plays, done | goesOn⟩
    · -- What comes later finds the session closed and adds no move.
      have closed := plays.agrees.closed.mpr done
      refine ⟨next, effects, moves, last, middle, ?_,
        ⟨plays.happens, plays.agrees, plays.takesIn.append later⟩, fun _ => done⟩
      rw [Session.handleAll, bind_of_ran ran]
      dsimp only
      rw [bind_of_ran (handleAll_of_closed closed peers fleet hostName later middle)]
      change EStateM.Result.ok (next, effects ++ []) middle = _
      rw [List.append_nil]
    · rcases inductionHypothesis plays.agrees goesOn.1 middle with
        ⟨final, others, further, lastThen, after, ranThen, playsThen, ends⟩
      refine ⟨final, effects ++ others, moves ++ further, lastThen, after, ?_,
        plays.trans goesOn.2.1 playsThen, ?_⟩
      · rw [Session.handleAll, bind_of_ran ran]
        dsimp only
        rw [bind_of_ran ranThen]
        rfl
      · intro member
        rcases List.mem_cons.mp member with same | inLater
        · exact absurd same.symm goesOn.2.2
        · exact ends inLater

end Interleaving
end Terminal
end ContainerFleet
