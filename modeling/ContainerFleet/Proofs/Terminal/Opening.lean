import ContainerFleet.Proofs.Outcome
import ContainerFleet.Terminal.Session

/-!
# Opening a session

A session is opened if its host is configured, the daemon answers the creation of the
shell with an id, and the shell can be attached to.  Otherwise the session is closed at
once, keeps the fault and has told the remote side of it.  Opening itself never fails.
-/

namespace ContainerFleet
namespace Terminal
namespace Session

open Daemon

variable {σ : Type} (peers : Peers σ)

/-- The shell is created and attached to. -/
def Prepares (host : Host) (containerId : String) (before : Exchange σ) (id : String)
    (after : Exchange σ) : Prop :=
  ∃ created, createExec peers host containerId shell before = .ok (.text id) created ∧
    attachExec peers host id created = .ok () after

/-- The session can be opened. -/
def Opens (fleet : Fleet) (hostName containerId : String) (before : Exchange σ) : Prop :=
  ∃ host id after, fleet.find? hostName = some host ∧
    Prepares peers host containerId before id after

variable {peers} {host : Host} {containerId : String} {before : Exchange σ}

theorem during_cases {α : Type} (step : SessionStep) (action : Action σ α) (before : Exchange σ) :
    (∃ value after, action before = .ok value after ∧
      during step action before = .ok (.ok value) after) ∨
    (∃ fault after, action before = .error fault after ∧
      during step action before = .ok (.error (.session step fault.message)) after) := by
  rcases attempt_cases action before with ⟨value, after, ran, attempted⟩ |
    ⟨fault, after, failed, attempted⟩
  · exact .inl ⟨value, after, ran, by rw [during, bind_of_ran attempted]; rfl⟩
  · exact .inr ⟨fault, after, failed, by rw [during, bind_of_ran attempted]; rfl⟩

theorem executionOf_cases (host : Host) (containerId : String) (answer : Json) :
    (∃ id, answer = .text id ∧
      executionOf host containerId answer = .ok ⟨id, host.name, containerId⟩) ∨
    (∃ fault, (∀ id, answer ≠ .text id) ∧ executionOf host containerId answer = .error fault) := by
  cases answer with
  | text id => exact .inl ⟨id, rfl, rfl⟩
  | _ => exact .inr ⟨_, fun id => by simp, rfl⟩

/-- What was prepared, or how far it came and why no further. -/
theorem prepare_cases (peers : Peers σ) (host : Host) (containerId : String)
    (before : Exchange σ) :
    (∃ id after, Prepares peers host containerId before id after ∧
      prepare peers host containerId before =
        .ok (⟨some ⟨id, host.name, containerId⟩, [.created, .attached], none, false, false⟩, .ok ())
          after) ∨
    (∃ session fault after, (∀ id after, ¬ Prepares peers host containerId before id after) ∧
      (session.history = [] ∨ session.history = [.created]) ∧
      prepare peers host containerId before = .ok (session, .error fault) after) := by
  rcases during_cases .create (createExec peers host containerId shell) before with
    ⟨answer, created, ran, during⟩ | ⟨fault, after, failed, during⟩
  case inr =>
    refine .inr ⟨start, .session .create fault.message, after, ?_, .inl rfl, ?_⟩
    · rintro id final ⟨created, succeeded, -⟩
      rw [failed] at succeeded
      cases succeeded
    · rw [prepare, bind_of_ran during]
      rfl
  -- An answer that is no text is no id: the session is left as if nothing had been created.
  rcases executionOf_cases host containerId answer with ⟨id, rfl, execution⟩ |
    ⟨fault, noText, execution⟩
  case inr =>
    refine .inr ⟨start, fault, created, ?_, .inl rfl, ?_⟩
    · rintro id final ⟨other, succeeded, -⟩
      rw [ran] at succeeded
      cases succeeded
      exact noText id rfl
    · rw [prepare, bind_of_ran during]
      dsimp only
      rw [execution]
      rfl
  rcases during_cases .attach (attachExec peers host id) created with
    ⟨⟨⟩, after, attached, duringAttach⟩ | ⟨fault, after, failed, duringAttach⟩
  · refine .inl ⟨id, after, ⟨created, ran, attached⟩, ?_⟩
    rw [prepare, bind_of_ran during]
    dsimp only
    rw [execution]
    dsimp only
    rw [bind_of_ran duringAttach]
    rfl
  · refine .inr ⟨{ start with execution := some ⟨id, host.name, containerId⟩ }.enter .created,
      .session .attach fault.message, after, ?_, .inr rfl, ?_⟩
    · rintro other final ⟨middle, succeeded, succeededThen⟩
      rw [ran] at succeeded
      cases succeeded
      rw [failed] at succeededThen
      cases succeededThen
    · rw [prepare, bind_of_ran during]
      dsimp only
      rw [execution]
      dsimp only
      rw [bind_of_ran duringAttach]
      rfl

/-- A session that is open, before anything was relayed. -/
def opened (execution : Execution) : Session :=
  ⟨some execution, [.created, .attached, .streaming], none, false, false⟩

theorem openOn_cases (peers : Peers σ) (fleet : Fleet) (hostName containerId : String)
    (textArrives : Bool) (before : Exchange σ) :
    (∃ host execution after, fleet.find? hostName = some host ∧
      Prepares peers host containerId before execution.id after ∧
      openOn peers fleet hostName containerId textArrives before =
        .ok (opened execution, []) after) ∨
    (¬ Opens peers fleet hostName containerId before ∧
      ∃ session fault after,
        (session.history = [.closed] ∨ session.history = [.created, .closed]) ∧
        session.fault = some fault ∧
        openOn peers fleet hostName containerId textArrives before =
          .ok (session, [.sendText (errorLead ++ fault.message) textArrives, .closeRemote])
            after) := by
  cases found : fleet.find? hostName with
  | none =>
    refine .inr ⟨?_, { start with fault := some (.hostNotFound hostName) }.enter .closed,
      .hostNotFound hostName, before, .inl rfl, rfl, ?_⟩
    · rintro ⟨host, id, after, known, -⟩
      rw [found] at known
      cases known
    · rw [openOn, Fleet.host, found]
      rfl
  | some host =>
    rcases prepare_cases peers host containerId before with ⟨id, after, prepares, prepared⟩ |
      ⟨session, fault, after, unprepared, history, prepared⟩
    · refine .inl ⟨host, ⟨id, host.name, containerId⟩, after, rfl, prepares, ?_⟩
      rw [openOn, Fleet.host, found]
      dsimp only
      rw [bind_of_ran prepared]
      rfl
    · refine .inr ⟨?_, { session with fault := some fault }.enter .closed, fault, after, ?_, rfl,
        ?_⟩
      · rintro ⟨other, id, final, known, prepares⟩
        rw [found] at known
        cases known
        exact unprepared id final prepares
      · rcases history with none | created
        · exact .inl (by rw [enter, none]; rfl)
        · exact .inr (by rw [enter, created]; rfl)
      · rw [openOn, Fleet.host, found]
        dsimp only
        rw [bind_of_ran prepared]
        rfl

variable {fleet : Fleet} {hostName : String} {textArrives : Bool} {session : Session}
  {effects : List Effect} {after : Exchange σ}

theorem opens_of_open
    (ran : openOn peers fleet hostName containerId textArrives before =
      .ok (session, effects) after)
    (isOpen : session.isClosed = false) :
    Opens peers fleet hostName containerId before ∧ effects = [] ∧
      ∃ execution, session = opened execution := by
  rcases openOn_cases peers fleet hostName containerId textArrives before with
    ⟨host, execution, final, found, prepares, open'⟩ | ⟨-, other, fault, final, history, -, closed⟩
  · rw [open'] at ran
    cases ran
    exact ⟨⟨host, execution.id, _, found, prepares⟩, rfl, execution, rfl⟩
  · rw [closed] at ran
    cases ran
    rcases history with history | history <;> simp [isClosed, state, history] at isOpen

theorem fails_of_closed
    (ran : openOn peers fleet hostName containerId textArrives before =
      .ok (session, effects) after)
    (closed : session.isClosed = true) :
    ¬ Opens peers fleet hostName containerId before ∧
      (session.history = [.closed] ∨ session.history = [.created, .closed]) ∧
      ∃ fault, session.fault = some fault ∧
        effects = [.sendText (errorLead ++ fault.message) textArrives, .closeRemote] := by
  rcases openOn_cases peers fleet hostName containerId textArrives before with
    ⟨host, execution, final, found, prepares, open'⟩ |
    ⟨unopened, other, fault, final, history, faulted, closed'⟩
  · rw [open'] at ran
    cases ran
    cases closed
  · rw [closed'] at ran
    cases ran
    exact ⟨unopened, history, fault, faulted, rfl⟩

end Session
end Terminal
end ContainerFleet
