import ContainerFleet.Daemon.Exchange
import ContainerFleet.Decode.Checked

/-!
# What success says about the steps

A chain of steps that succeeded has succeeded at every step.  These are the
inversions of the three kinds of chains: of results, of operations on peers and
of checked values.
-/

namespace ContainerFleet

variable {ε α β σ : Type}

theorem ok_of_bind {first : Except ε α} {next : α → Except ε β} {result : β}
    (succeeded : first >>= next = .ok result) :
    ∃ value, first = .ok value ∧ next value = .ok result := by
  cases first with
  | error error => cases succeeded
  | ok value => exact ⟨value, rfl, succeeded⟩

namespace Daemon

theorem ran_of_bind {first : Action σ α} {next : α → Action σ β} {before after : Exchange σ}
    {result : β} (succeeded : (first >>= next) before = .ok result after) :
    ∃ value middle, first before = .ok value middle ∧ next value middle = .ok result after := by
  change EStateM.bind first next before = _ at succeeded
  rw [EStateM.bind] at succeeded
  cases ran : first before with
  | error fault middle =>
    rw [ran] at succeeded
    cases succeeded
  | ok value middle =>
    rw [ran] at succeeded
    exact ⟨value, middle, rfl, succeeded⟩

theorem bind_of_ran {first : Action σ α} {next : α → Action σ β} {before middle : Exchange σ}
    {value : α} (ran : first before = .ok value middle) :
    (first >>= next) before = next value middle := by
  change EStateM.bind first next before = _
  rw [EStateM.bind, ran]

theorem bind_of_failed {first : Action σ α} {next : α → Action σ β}
    {before middle : Exchange σ} {fault : Fault} (failed : first before = .error fault middle) :
    (first >>= next) before = .error fault middle := by
  change EStateM.bind first next before = _
  rw [EStateM.bind, failed]

theorem attempt_of_ran {action : Action σ α} {before after : Exchange σ} {value : α}
    (ran : action before = .ok value after) : attempt action before = .ok (.ok value) after := by
  rw [attempt, ran]

theorem attempt_of_failed {action : Action σ α} {before after : Exchange σ} {fault : Fault}
    (failed : action before = .error fault after) :
    attempt action before = .ok (.error fault) after := by
  rw [attempt, failed]

/-- An attempt never fails, and its value is what came of the operation. -/
theorem attempt_cases (action : Action σ α) (before : Exchange σ) :
    (∃ value after, action before = .ok value after ∧
      attempt action before = .ok (.ok value) after) ∨
    (∃ fault after, action before = .error fault after ∧
      attempt action before = .ok (.error fault) after) := by
  rw [attempt]
  cases action before with
  | ok value after => exact .inl ⟨value, after, rfl, rfl⟩
  | error fault after => exact .inr ⟨fault, after, rfl, rfl⟩

theorem attempt_ok (action : Action σ α) (before : Exchange σ) :
    ∃ outcome after, attempt action before = .ok outcome after := by
  rcases attempt_cases action before with ⟨value, after, -, done⟩ | ⟨fault, after, -, done⟩
  · exact ⟨_, after, done⟩
  · exact ⟨_, after, done⟩

theorem ignoring_of_attempt {action : Action σ Unit} {before after : Exchange σ}
    {outcome : Except Fault Unit} (attempted : attempt action before = .ok outcome after) :
    ignoring action before = .ok () after := by
  rw [ignoring, bind_of_ran attempted]
  rfl

theorem ignoring_ok (action : Action σ Unit) (before : Exchange σ) :
    ∃ after, ignoring action before = .ok () after := by
  rcases attempt_ok action before with ⟨outcome, after, attempted⟩
  exact ⟨after, ignoring_of_attempt attempted⟩

/-- What is closed after an operation fails first, and else the operation has its outcome. -/
theorem attempt_closing {action : Action σ α} {last : Action σ Unit}
    {before middle after : Exchange σ} {outcome : Except Fault α} {ending : Except Fault Unit}
    (ran : attempt action before = .ok outcome middle)
    (ended : attempt last middle = .ok ending after) :
    attempt (closing action last) before = .ok (ending.bind fun _ => outcome) after := by
  rw [attempt, closing, bind_of_ran ran]
  rcases attempt_cases last middle with ⟨_, reached, closed, same⟩ | ⟨fault, reached, failed, same⟩
  · cases ended.symm.trans same
    rw [bind_of_ran closed]
    cases outcome <;> rfl
  · cases ended.symm.trans same
    rw [bind_of_failed failed]
    rfl

theorem attempt_of_eq {action other : Action σ α} {before middle : Exchange σ}
    (same : action before = other middle) : attempt action before = attempt other middle := by
  rw [attempt, attempt, same]

/-- The first failure of a series of operations ends the series. -/
theorem attempt_mapM_failed {action : α → Action σ β} {first : α} {later : List α}
    {before after : Exchange σ} {fault : Fault}
    (failed : attempt (action first) before = .ok (.error fault) after) :
    attempt ((first :: later).mapM action) before = .ok (.error fault) after := by
  rcases attempt_cases (action first) before with ⟨_, _, -, same⟩ | ⟨_, _, ended, same⟩
  · cases failed.symm.trans same
  · cases failed.symm.trans same
    rw [List.mapM_cons]
    exact attempt_of_failed (bind_of_failed ended)

theorem attempt_mapM_cons {action : α → Action σ β} {first : α} {later : List α}
    {before middle after : Exchange σ} {value : β} {result : Except Fault (List β)}
    (came : attempt (action first) before = .ok (.ok value) middle)
    (rest : attempt (later.mapM action) middle = .ok result after) :
    attempt ((first :: later).mapM action) before = .ok (result.map (value :: ·)) after := by
  rcases attempt_cases (action first) before with ⟨_, _, ran, same⟩ | ⟨_, _, -, same⟩
  · cases came.symm.trans same
    rw [List.mapM_cons, attempt_of_eq (bind_of_ran ran)]
    rcases attempt_cases (later.mapM action) middle with
      ⟨_, _, others, same⟩ | ⟨_, _, failed, same⟩
    · cases rest.symm.trans same
      rw [attempt_of_eq (bind_of_ran others)]
      rfl
    · cases rest.symm.trans same
      exact attempt_of_failed (bind_of_failed failed)
  · cases came.symm.trans same

/-- A request is made, whatever is answered. -/
theorem attempt_request (peers : Peers σ) (uri : String) (call : Call) (before : Exchange σ) :
    ∃ (answer : Except PeerError call.Answer) (after : Exchange σ),
      attempt (peers.request uri call) before = .ok (answer.mapError Fault.peer) after ∧
      after.calls = (uri, call) :: before.calls := by
  rcases said : peers.answer uri call before.peers with ⟨answer, state⟩
  refine ⟨answer, { before with peers := state, calls := (uri, call) :: before.calls }, ?_, rfl⟩
  rw [attempt, Peers.request, said]
  cases answer <;> rfl

theorem ok_of_ofExcept {cause : ε → Fault} {outcome : Except ε α} {before after : Exchange σ}
    {value : α} (succeeded : ofExcept cause outcome before = .ok value after) :
    outcome = .ok value := by
  cases outcome with
  | error error => cases succeeded
  | ok found =>
    cases succeeded
    rfl

end Daemon

namespace Decode

theorem Checked.ok_of_seq {function : Checked (α → β)} {argument : Checked α} {result : β}
    (succeeded : function <*> argument = .ok result) :
    ∃ made value, function = .ok made ∧ argument = .ok value ∧ made value = result := by
  cases function with
  | failed issues => cases argument <;> cases succeeded
  | ok made =>
    cases argument with
    | failed issues => cases succeeded
    | ok value =>
      cases succeeded
      exact ⟨made, value, rfl, rfl, rfl⟩

theorem Checked.ok_of_map {function : α → β} {argument : Checked α} {result : β}
    (succeeded : function <$> argument = .ok result) :
    ∃ value, argument = .ok value ∧ function value = result := by
  cases argument with
  | failed issues => cases succeeded
  | ok value =>
    cases succeeded
    exact ⟨value, rfl, rfl⟩

end Decode
end ContainerFleet
