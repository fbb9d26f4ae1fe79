import ContainerFleet.Daemon.Script
import ContainerFleet.Proofs.Terminal.InTurn

/-!
# How sessions end

Every session ends closed, whatever fails on the way and however its relays and their
end interleave.  It went through one of the courses in `Walk`; the remote side was told
to close once, the shell once if it was attached to, and the remote side was told of a
fault exactly if there was one to keep.
-/

namespace ContainerFleet
namespace Terminal
namespace Interleaving

open Daemon

/-- The states of a session that is over. -/
inductive Walk : List State → Prop
  | unopened : Walk [.closed]
  | unattached : Walk [.created, .closed]
  | relayed (changes : Nat) (midway : Bool) : Walk (walked changes midway ++ [.closed])

/-- What the remote side is told in words. -/
def Attempt.words? : Attempt → Option String
  | .tell text => some text
  | _ => none

/-- A session ended as it should, given whether it could be opened. -/
structure Orderly (opens : Prop) (past : Past) : Prop where
  walk : Walk past.history
  closedOnce : past.history.count .closed = 1
  closedLast : past.history.getLast? = some .closed
  attached : .attached ∈ past.history ↔ opens
  remoteClosed : past.attempts.count .closeRemote = 1
  shellClosed : past.attempts.count .closeShell = if .attached ∈ past.history then 1 else 0
  faulted : past.fault.isSome ↔ ¬ opens
  told : past.attempts.filterMap Attempt.words? =
    past.fault.toList.map fun fault => Session.errorLead ++ fault.message

theorem count_attemptsOf {attempt : Attempt} {relay? : Option Relay}
    (own : attempt.relay? = relay?) (attempts : List Attempt) :
    (attemptsOf relay? attempts).count attempt = attempts.count attempt :=
  List.count_filter (decide_eq_true own)

variable {stage : Stage}

theorem Stage.Sound.wordless (sound : stage.Sound) :
    stage.attempts.filterMap Attempt.words? = [] := by
  rw [List.filterMap_eq_nil_iff]
  intro attempt member
  cases attempt with
  | tell text =>
    have own : Attempt.tell text ∈ attemptsOf none stage.attempts :=
      List.mem_filter.mpr ⟨member, rfl⟩
    rw [sound.closings] at own
    split at own <;> simp at own
  | _ => rfl

theorem orderly_of_unopened {opens : Prop} {history : List State} {fault : Fault}
    (fails : ¬ opens) (few : history = [.closed] ∨ history = [.created, .closed])
    (arrives : Bool) :
    Orderly opens ⟨history, some fault,
      [Effect.sendText (Session.errorLead ++ fault.message) arrives, .closeRemote].map
        attemptOf⟩ := by
  have unattached : State.attached ∉ history := by
    rcases few with rfl | rfl <;> decide
  refine ⟨?_, ?_, ?_, ⟨fun member => absurd member unattached, fun does => absurd does fails⟩,
    rfl, ?_, ⟨fun _ => fails, fun _ => rfl⟩, rfl⟩
  · rcases few with rfl | rfl
    · exact .unopened
    · exact .unattached
  · rcases few with rfl | rfl <;> rfl
  · rcases few with rfl | rfl <;> rfl
  · rw [if_neg unattached]
    rfl

theorem orderly_of_relayed {opens : Prop} (does : opens) (sound : stage.Sound)
    (done : stage.closing = .done) : Orderly opens ⟨stage.history, none, stage.attempts⟩ := by
  rcases sound.walks with ⟨changes, midway, history, -⟩
  rw [if_pos done] at history
  have attached : State.attached ∈ stage.history := by
    rw [history]
    simp [walked]
  have closings : attemptsOf none stage.attempts = [.closeShell, .closeRemote] := by
    rw [sound.closings, done]
    rfl
  have once : ∀ attempt : Attempt, attempt.relay? = none →
      stage.attempts.count attempt = [Attempt.closeShell, .closeRemote].count attempt := by
    intro attempt own
    rw [← closings, count_attemptsOf own]
  refine ⟨history ▸ .relayed changes midway, ?_, ?_, ⟨fun _ => does, fun _ => attached⟩,
    once .closeRemote rfl, ?_, ⟨Bool.noConfusion, fun fails => absurd does fails⟩, sound.wordless⟩
  · rw [history, List.count_append, List.count_eq_zero.mpr (closed_not_mem_walked changes midway)]
    rfl
  · rw [history, List.getLast?_concat]
  · rw [if_pos attached]
    exact once .closeShell rfl

section Sessions

variable {σ : Type} (peers : Peers σ) (fleet : Fleet) (hostName containerId : String)
  (textArrives : Bool) (before : Exchange σ)

/-- The relays of a session can be at this stage. -/
def Comes (stage : Stage) : Prop :=
  ∃ session effects after execution,
    Session.openOn peers fleet hostName containerId textArrives before =
      .ok (session, effects) after ∧
    session.isClosed = false ∧ session.execution = some execution ∧
    stage.Arises execution session.history

variable {peers fleet hostName containerId textArrives before}

theorem Comes.sound (comes : Comes peers fleet hostName containerId textArrives before stage) :
    stage.Sound := by
  rcases comes with ⟨session, effects, after, execution, ran, isOpen, running, arises⟩
  rcases Session.opens_of_open ran isOpen with ⟨-, -, created, rfl⟩
  exact arises.sound

theorem Concludes.orderly {past : Past}
    (concludes : Concludes peers fleet hostName containerId textArrives before past) :
    Orderly (Session.Opens peers fleet hostName containerId before) past := by
  cases concludes with
  | unopened ran closed =>
    rcases Session.fails_of_closed ran closed with ⟨fails, few, fault, faulted, rfl⟩
    rw [faulted]
    exact orderly_of_unopened fails few textArrives
  | relayed ran isOpen running arises done =>
    rcases Session.opens_of_open ran isOpen with ⟨opens, rfl, execution, rfl⟩
    exact orderly_of_relayed opens arises.sound done

/-- A session that is run is over, and is one of those that can be over like this. -/
theorem concludes_of_run (peers : Peers σ) (fleet : Fleet) (hostName containerId : String)
    (textArrives : Bool) (events : List Event) (before : Exchange σ) :
    ∃ session effects after past,
      Session.run peers fleet hostName containerId textArrives events before =
        .ok (session, effects) after ∧
      Concludes peers fleet hostName containerId textArrives before past ∧
      past.history = session.history ∧ past.fault = session.fault ∧
      effects.map attemptOf = past.attempts.filter fun attempt => attempt.call?.isNone := by
  rcases Session.openOn_cases peers fleet hostName containerId textArrives before with
    ⟨host, execution, middle, found, prepares, opened⟩ |
    ⟨-, session, fault, after, few, faulted, unopened⟩
  · rcases plays_events found (agrees_opened execution) ⟨rfl, rfl, rfl⟩ (events ++ [.remoteEnded])
        peers middle with ⟨session, effects, moves, last, after, ran, plays, ends⟩
    have done : last.closing = .done := ends (List.mem_append_right _ List.mem_cons_self)
    rcases plays.happens.attempts with ⟨attempts, added, done', -⟩
    refine ⟨session, effects, after, ⟨last.history, none, [] ++ last.attempts⟩, ?_,
      .relayed opened rfl rfl ⟨moves, plays.happens.ran⟩ done, plays.agrees.history.symm,
      plays.agrees.fault.symm, ?_⟩
    · rw [Session.run, bind_of_ran opened]
      dsimp only
      rw [bind_of_ran ran]
      rfl
    · rw [done', added]
      rfl
  · have closed : session.isClosed = true := by
      rcases few with history | history <;> simp [Session.isClosed, Session.state, history]
    refine ⟨session, [.sendText (Session.errorLead ++ fault.message) textArrives, .closeRemote],
      after, _, ?_, .unopened unopened closed, rfl, rfl, rfl⟩
    rw [Session.run, bind_of_ran unopened]
    dsimp only
    rw [bind_of_ran (handleAll_of_closed closed peers fleet hostName _ after)]
    rfl

end Sessions

/-- However it goes, a session ends closed and in order, and is closed behind its relays.
Running it raises nothing and is one way in which it can go. -/
theorem session_ends_closed {σ : Type} (peers : Peers σ) (fleet : Fleet)
    (hostName containerId : String) (textArrives : Bool) (before : Exchange σ) :
    (∀ past, Concludes peers fleet hostName containerId textArrives before past →
      Orderly (Session.Opens peers fleet hostName containerId before) past) ∧
    (∀ stage, Comes peers fleet hostName containerId textArrives before stage →
      .closed ∈ stage.history →
      (∀ relay, stage.Ended relay) ∧ ∀ move, stage.step? move = none) ∧
    (∀ events, ∃ session effects after past,
      Session.run peers fleet hostName containerId textArrives events before =
        .ok (session, effects) after ∧
      Concludes peers fleet hostName containerId textArrives before past ∧
      past.history = session.history ∧ past.fault = session.fault ∧
      effects.map attemptOf = past.attempts.filter fun attempt => attempt.call?.isNone) := by
  refine ⟨fun past concludes => concludes.orderly, ?_,
    fun events => concludes_of_run peers fleet hostName containerId textArrives events before⟩
  intro stage comes closed
  have sound := comes.sound
  have done := sound.done_of_closed closed
  refine ⟨sound.relaysEnded done, fun move => ?_⟩
  cases stepped : stage.step? move with
  | none => rfl
  | some after => exact absurd done (Stage.step_of_step? stepped).not_done

/-- The output of a shell is lost while the size of its terminal is being changed. -/
theorem session_cut_off_while_resizing :
    let fleet : Fleet := ⟨[⟨"local", "unix:///local"⟩], List.pairwise_singleton _ _⟩
    let before := Exchange.start (Daemon.Stage.start [] [])
    ∃ past, Concludes Daemon.Stage.peers fleet "local" "web" true before past ∧
      past.history = [.created, .attached, .streaming, .resizing, .closed] ∧
      Orderly (Session.Opens Daemon.Stage.peers fleet "local" "web" before) past := by
  intro fleet before
  let wish : Frame := .ofText "\x7b\"type\":\"resize\",\"cols\":80,\"rows\":24\x7d"
  let execution : Execution := ⟨"exec1234567890abcdef", "local", "web"⟩
  have opens : Session.openOn Daemon.Stage.peers fleet "local" "web" true before =
      .ok (Session.opened execution, []) _ := rfl
  have concludes : Concludes Daemon.Stage.peers fleet "local" "web" true before
      ⟨[.created, .attached, .streaming, .resizing, .closed], none,
        [.resize execution.id 24 80, .closeShell, .closeRemote]⟩ :=
    .relayed opens rfl rfl
      ⟨[.received wish 985, .outputLost, .beginClosing false, .remoteClosed true, .cancelInput,
        .finish], rfl⟩ rfl
  exact ⟨_, concludes, rfl,
    (session_ends_closed Daemon.Stage.peers fleet "local" "web" true before).1 _ concludes⟩

end Interleaving
end Terminal
end ContainerFleet
