import ContainerFleet.Proofs.Handoff.Order

/-!
# Reading a stream to its end

No interleaving goes on for ever: an item is emitted, put and taken once, each of these
is worth less than the one before it, and the same is true of the mark of the end.  No
interleaving gets stuck before the reader has gone, as long as the queue has room for one
parcel.  So a reader who stays comes to the end of the stream, whatever the order of the
moves, and then he has seen all of it.
-/

namespace ContainerFleet
namespace Handoff

namespace Reader

/-- How many moves a reader makes who takes nothing more. -/
def remaining {ε : Type} : Reader ε → Nat
  | .reading => 2
  | .stopping _ => 1
  | .gone _ => 0

theorem remaining_of_reads {ε : Type} {reader : Reader ε} (reads : reader.reads = true) :
    reader.remaining = 2 := by
  cases reader with
  | reading => rfl
  | stopping reason => cases reads
  | gone reason => cases reads

end Reader

namespace State

variable {ε α : Type} {capacity : Nat} {stream : Streamed ε α} {state before after : State ε α}

/-- What is still to do: for each item and for the mark to put, to deliver and to take
it, and what is left for the reader. -/
def remaining (state : State ε α) : Nat :=
  3 * (state.ahead.items.length + state.working.toNat) + 2 * state.inFlight.toList.length +
    state.queue.length + state.reader.remaining

theorem remaining_receive (state : State ε α) (reads : state.reader.reads = true)
    (parcel : Parcel ε α) : (state.receive parcel).remaining ≤ state.remaining := by
  have reader := Reader.remaining_of_reads reads
  cases parcel with
  | item value => exact Nat.le_refl _
  | failure fault =>
    rw [receive, remaining, remaining, reader]
    exact Nat.add_le_add_left (Nat.le_succ 1) _
  | ending =>
    rw [receive, remaining, remaining, reader]
    exact Nat.add_le_add_left (Nat.le_succ 1) _

/-- Every move leaves less to do. -/
theorem remaining_lt_of_step {move : Move} (stepped : before.step? capacity move = some after) :
    after.remaining < before.remaining := by
  cases step_of_step? stepped with
  | emit free reads items =>
    rw [isFree, Bool.and_eq_true, Option.isNone_iff_eq_none] at free
    simp only [remaining, items, free.2, Option.toList, List.length_cons, List.length_nil]
    omega
  | refuse free stopped items =>
    simp only [remaining, items, List.length_cons]
    omega
  | finish free reads items =>
    rw [isFree, Bool.and_eq_true, Option.isNone_iff_eq_none] at free
    simp only [remaining, free.1, free.2, Option.toList, List.length_cons, List.length_nil,
      Bool.toNat_true, Bool.toNat_false]
    omega
  | finishUntold free stopped items =>
    simp only [remaining, working_of_free free, Bool.toNat_true, Bool.toNat_false]
    omega
  | abandon free stopped =>
    simp only [remaining, working_of_free free, Bool.toNat_true, Bool.toNat_false]
    omega
  | deliver waits room =>
    simp only [remaining, waits, Option.toList, List.length_append, List.length_cons,
      List.length_nil]
    omega
  | callBack stopped =>
    rw [step?, callBack?] at stepped
    split at stepped
    · rename_i allowed
      rw [Bool.and_eq_true, Option.isSome_iff_exists] at allowed
      rcases allowed.1 with ⟨parcel, waits⟩
      simp only [remaining, waits, Option.toList, List.length_cons, List.length_nil]
      omega
    · cases stepped
  | @take parcel later reads queue =>
    have received := remaining_receive { before with queue := later } reads parcel
    have taken : remaining { before with queue := later } < before.remaining := by
      simp only [remaining, queue, List.length_cons]
      omega
    exact Nat.lt_of_le_of_lt received taken
  | leave reads =>
    rw [remaining, remaining, Reader.remaining_of_reads reads]
    exact Nat.lt_succ_self _
  | close stopping =>
    rw [remaining, remaining, stopping]
    exact Nat.lt_succ_self _

/-- There are no more moves than there is to do. -/
theorem length_add_remaining_le {moves : List Move}
    (ran : run? capacity before moves = some after) :
    moves.length + after.remaining ≤ before.remaining := by
  induction moves generalizing before with
  | nil =>
    cases ran
    exact Nat.le_of_eq (Nat.zero_add _)
  | cons move later inductionHypothesis =>
    rcases Option.bind_eq_some_iff.mp ran with ⟨middle, stepped, rest⟩
    have less := remaining_lt_of_step stepped
    have others := inductionHypothesis rest
    rw [List.length_cons]
    omega

/-- As long as the reader has not gone, one side can go on, and the reader need not leave
for that. -/
theorem Arises.goes_on (arises : Arises capacity stream state) (room : 0 < capacity)
    (here : ∀ reason, state.reader ≠ .gone reason) :
    ∃ move after, move ≠ .leave ∧ state.step? capacity move = some after := by
  suffices possible : ∃ move, move ≠ .leave ∧ (state.step? capacity move).isSome = true by
    rcases possible with ⟨move, stays, isSome⟩
    rcases Option.isSome_iff_exists.mp isSome with ⟨after, stepped⟩
    exact ⟨move, after, stays, stepped⟩
  cases reader : state.reader with
  | gone reason => exact absurd reader (here reason)
  | stopping reason =>
    refine ⟨.close false, by decide, ?_⟩
    rw [step?, close?, reader]
    rfl
  | reading =>
    rcases arises.sound.reading (by rw [reader]; rfl) with ⟨unseen, underway⟩
    cases queue : state.queue with
    | cons parcel later =>
      refine ⟨.take, by decide, ?_⟩
      rw [step?, take?, reader, queue]
      rfl
    | nil =>
      cases waits : state.inFlight with
      | some parcel =>
        refine ⟨.deliver, by decide, ?_⟩
        rw [step?, deliver?, waits, queue]
        dsimp only
        rw [List.length_nil, if_pos room]
        rfl
      | none =>
        -- Nothing is on the way, not even the mark, so the producer is not done.
        have working : state.working = true := by
          have waiting := underway.waiting
          rw [State.waiting, queue, waits, mark] at waiting
          cases working : state.working with
          | true => rfl
          | false =>
            rw [working] at waiting
            rcases List.append_eq_nil_iff.mp waiting.symm with ⟨-, marked⟩
            cases marked
        cases items : state.ahead.items with
        | cons item later =>
          refine ⟨.emit, by decide, ?_⟩
          rw [step?, emit?, isFree, working, waits, items]
          dsimp only [Option.isNone, Bool.and_self]
          rw [reader]
          rfl
        | nil =>
          refine ⟨.finish, by decide, ?_⟩
          rw [step?, finish?, isFree, working, waits, items]
          rfl

/-- A reader who has gone without leaving has seen the whole stream; the source was closed
once. -/
theorem Arises.seen_all (arises : Arises capacity stream state) {reason : Stop ε}
    (gone : state.reader = .gone reason) (stayed : reason ≠ .left) :
    state.seen = stream ∧ state.closings = 1 ∧ (reason = .ended ↔ stream.fault = none) := by
  have sound := arises.sound
  have founded := sound.founded reason (by rw [gone]; rfl)
  have closings := sound.closings
  rw [gone] at closings
  rw [seen, gone]
  cases reason with
  | left => exact absurd rfl stayed
  | ended =>
    rcases founded with ⟨clean, complete⟩
    refine ⟨?_, closings, iff_of_true rfl clean⟩
    rw [complete.yielded]
    exact congrArg (Streamed.mk stream.items) clean.symm
  | failed fault =>
    rcases founded with ⟨passed, complete⟩
    refine ⟨?_, closings, iff_of_false ?_ ?_⟩
    · rw [complete.yielded]
      exact congrArg (Streamed.mk stream.items) passed.symm
    · intro ended
      cases ended
    · rw [passed]
      exact Option.some_ne_none fault

/-- However the two sides interleave, they come to an end, and a reader who stays to the
end has then seen the whole stream. -/
structure ReadWhole (capacity : Nat) (stream : Streamed ε α) : Prop where
  bounded : ∀ moves state, run? capacity (start stream) moves = some state →
    moves.length ≤ 3 * stream.items.length + 5
  unstuck : ∀ state, Arises capacity stream state → (∀ reason, state.reader ≠ .gone reason) →
    ∃ move after, move ≠ .leave ∧ state.step? capacity move = some after
  whole : ∀ state reason, Arises capacity stream state → state.reader = .gone reason →
    reason ≠ .left →
      state.seen = stream ∧ state.closings = 1 ∧ (reason = .ended ↔ stream.fault = none)

theorem readWhole (room : 0 < capacity) (stream : Streamed ε α) : ReadWhole capacity stream where
  bounded := fun moves state ran => by
    have most := length_add_remaining_le ran
    have all : (start stream).remaining = 3 * (stream.items.length + 1) + 0 + 0 + 2 := rfl
    omega
  unstuck := fun _ arises here => arises.goes_on room here
  whole := fun _ _ arises gone stayed => arises.seen_all gone stayed

end State
end Handoff
end ContainerFleet
