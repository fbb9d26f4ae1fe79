import ContainerFleet.Proofs.Terminal.Moves

/-!
# The states of an open session

An open session streams and changes the size of its terminal any number of times; the
last change may be cut off when the relays are cancelled.  The shell and the remote side
are closed together, once, and the session is closed behind both relays: after that no
move is possible.
-/

namespace ContainerFleet
namespace Terminal
namespace Interleaving

/-- The states of an open session after so many changes of its size, with one more begun
or not. -/
def walked (changes : Nat) (midway : Bool) : List State :=
  [.created, .attached, .streaming] ++
    (List.replicate changes [State.resizing, .streaming]).flatten ++
    if midway then [.resizing] else []

theorem walked_begin (changes : Nat) :
    walked changes false ++ [.resizing] = walked changes true := by
  simp [walked]

theorem walked_end (changes : Nat) :
    walked changes true ++ [.streaming] = walked (changes + 1) false := by
  simp [walked, List.replicate_succ']

theorem closed_not_mem_walked (changes : Nat) (midway : Bool) :
    State.closed ∉ walked changes midway := by
  cases midway <;> simp [walked]

namespace Stage

variable {execution : Execution} {stage after : Stage} {move : Move}

theorem relaying_iff : stage.relaying = true ↔
    stage.closing = .notBegun ∨ stage.closing = .underWay := by
  rw [relaying, Bool.or_eq_true, beq_iff_eq, beq_iff_eq]

theorem Step.not_done (step : Step stage move after) : stage.closing ≠ .done := by
  intro done
  cases step <;> simp_all [relaying]

/-- While the relays are free to go on, a change of size has begun in the states where
it has begun in the relay. -/
def Walks (stage : Stage) : Prop :=
  ∃ changes midway,
    stage.history = walked changes midway ++ (if stage.closing = .done then [.closed] else []) ∧
    (stage.relaying = true → (midway = true ↔ stage.input = .resizing))

theorem Walks.step (walks : Walks stage) (step : Step stage move after) : Walks after := by
  have notDone := step.not_done
  rcases walks with ⟨changes, midway, history, resizing⟩
  rw [if_neg notDone, List.append_nil] at history
  -- Only a wish, the end of its change and the end of the session enter a state.
  cases step with
  | wish relaying free =>
    have still : midway = false := by simpa [free] using resizing relaying
    refine ⟨changes, true, ?_, fun _ => by simp [attempting, enter]⟩
    simp [attempting, enter, notDone, history, still, walked_begin]
  | resized relaying busy =>
    have begun : midway = true := (resizing relaying).mpr busy
    refine ⟨changes + 1, false, ?_, fun _ => by simp [enter]⟩
    simp [enter, notDone, history, begun, walked_end]
  | finish => exact ⟨changes, midway, by simp [enter, history], fun relaying => by cases relaying⟩
  | chunk relaying | outputEnd relaying | outputLost relaying | sent relaying =>
    exact ⟨changes, midway, by simp [attempting, notDone, history], fun _ => resizing relaying⟩
  | typed relaying free | unreadable relaying free | remoteEnded relaying free =>
    have still : midway = false := by simpa [free] using resizing relaying
    refine ⟨changes, midway, by simp [attempting, notDone, history], fun _ => ?_⟩
    simp [attempting, still]
  | @written arrived relaying busy =>
    have still : midway = false := by simpa [busy] using resizing relaying
    refine ⟨changes, midway, by simp [notDone, history], fun _ => ?_⟩
    cases arrived <;> simp [still]
  | beginClosing notBegun =>
    refine ⟨changes, midway, by simp [attempting, history], fun _ => ?_⟩
    exact resizing (relaying_iff.mpr (.inl notBegun))
  | remoteClosed | cancelOutput | cancelInput =>
    refine ⟨changes, midway, by simp_all, fun relaying => ?_⟩
    simp_all [relaying_iff]

/-- What is settled about an open session while its relays run and after that. -/
structure Sound (stage : Stage) : Prop where
  walks : Walks stage
  /-- Shell and remote side are closed when the closing begins, and never again. -/
  closings : attemptsOf none stage.attempts =
    if stage.closing = .notBegun then [] else [.closeShell, .closeRemote]
  relaysEnded : stage.closing = .done → ∀ relay, stage.Ended relay

theorem Sound.done_of_closed (sound : Sound stage) (closed : State.closed ∈ stage.history) :
    stage.closing = .done := by
  rcases sound.walks with ⟨changes, midway, history, -⟩
  rw [history, List.mem_append] at closed
  rcases closed with relaying | closing
  · exact absurd relaying (closed_not_mem_walked changes midway)
  · by_contra going
    rw [if_neg going] at closing
    cases closing

theorem sound_start (execution : Execution) : Sound (start execution (walked 0 false)) where
  walks := ⟨0, false, rfl, fun _ => by simp [start]⟩
  closings := rfl
  relaysEnded := fun done => by cases done

theorem Sound.step (sound : Sound stage) (step : Step stage move after) : Sound after where
  walks := sound.walks.step step
  closings := by
    cases relay : move.relay? with
    | some =>
      rw [step.attemptsOf_of_ne (by simp [relay]), step.closing_of_relay (by simp [relay])]
      exact sound.closings
    | none =>
      have closings := sound.closings
      cases step with
      | beginClosing notBegun =>
        rw [if_pos notBegun] at closings
        change attemptsOf none (stage.attempts ++ [.closeShell] ++ [.closeRemote]) = _
        rw [attemptsOf_append, attemptsOf_append, closings]
        rfl
      | remoteClosed before | cancelOutput before | cancelInput before | finish before =>
        rw [if_neg (by simp [before])] at closings
        simpa [enter, before] using closings
      | _ => cases relay
  relaysEnded := by
    intro done relay
    have notDone := step.not_done
    cases step with
    | finish cancelling outputEnded inputEnded =>
      cases relay with
      | output => exact outputEnded
      | input => exact inputEnded
    | _ => simp_all [attempting, enter]

theorem Arises.sound (arises : stage.Arises execution (walked 0 false)) : Sound stage := by
  rcases arises with ⟨moves, ran⟩
  have run := run_of_run? ran
  clear ran
  induction run with
  | start => exact sound_start execution
  | next _ step inductionHypothesis => exact inductionHypothesis.step step

end Stage
end Interleaving
end Terminal
end ContainerFleet
