import ContainerFleet.Proofs.Daemon.Changing

/-!
# Operations side by side

The same operation may be made with different peers.  If every request that it makes is
answered alike on both sides, the whole operation comes to the same outcome, and whatever
relation between the two exchanges the requests keep, the operation keeps.  What an
operation can learn and what it leaves alone are both statements of this kind: for the
first the two sides differ in what must not matter, for the second they are the same.
-/

namespace ContainerFleet
namespace Daemon

variable {σ τ α β ε : Type}

/-- What came of an operation. -/
def came : EStateM.Result Fault (Exchange σ) α → Except Fault α
  | .ok value _ => .ok value
  | .error fault _ => .error fault

/-- The two operations come to the same outcome and keep the relation. -/
def Parallel (related : Exchange σ → Exchange τ → Prop) (one : Action σ α) (two : Action τ α) :
    Prop :=
  ∀ first second, related first second →
    came (one first) = came (two second) ∧ related (left (one first)) (left (two second))

variable {related : Exchange σ → Exchange τ → Prop}

theorem parallel_pure (value : α) :
    Parallel related (pure value : Action σ α) (pure value : Action τ α) :=
  fun _ _ before => ⟨rfl, before⟩

theorem parallel_throw (fault : Fault) :
    Parallel related (throw fault : Action σ α) (throw fault : Action τ α) :=
  fun _ _ before => ⟨rfl, before⟩

theorem parallel_ofExcept (cause : ε → Fault) (outcome : Except ε α) :
    Parallel related (ofExcept cause outcome : Action σ α) (ofExcept cause outcome) := by
  cases outcome with
  | ok value => exact parallel_pure value
  | error error => exact parallel_throw (cause error)

theorem Parallel.bind {one : Action σ α} {two : Action τ α} {oneNext : α → Action σ β}
    {twoNext : α → Action τ β} (alike : Parallel related one two)
    (next : ∀ value, Parallel related (oneNext value) (twoNext value)) :
    Parallel related (one >>= oneNext) (two >>= twoNext) := by
  intro first second before
  have known := alike first second before
  change came (EStateM.bind one oneNext first) = came (EStateM.bind two twoNext second) ∧
    related (left (EStateM.bind one oneNext first)) (left (EStateM.bind two twoNext second))
  rw [EStateM.bind, EStateM.bind]
  cases ranOne : one first with
  | ok value here =>
    cases ranTwo : two second with
    | ok other there =>
      rw [ranOne, ranTwo] at known
      cases known.1
      exact next value here there known.2
    | error fault there =>
      rw [ranOne, ranTwo] at known
      cases known.1
  | error fault here =>
    cases ranTwo : two second with
    | ok other there =>
      rw [ranOne, ranTwo] at known
      cases known.1
    | error other there =>
      rw [ranOne, ranTwo] at known
      cases known.1
      exact ⟨rfl, known.2⟩

/-- Where one side succeeds, so does the other. -/
theorem Parallel.ok {one : Action σ α} {two : Action τ α} (alike : Parallel related one two)
    {first here : Exchange σ} {second : Exchange τ} (before : related first second) {value : α}
    (ran : one first = .ok value here) :
    ∃ there, two second = .ok value there ∧ related here there := by
  have known := alike first second before
  rw [ran] at known
  cases ranTwo : two second with
  | ok other there =>
    rw [ranTwo] at known
    cases known.1
    exact ⟨there, rfl, known.2⟩
  | error fault there =>
    rw [ranTwo] at known
    cases known.1

theorem came_attempt (action : Action σ α) (before : Exchange σ) :
    came (attempt action before) = .ok (came (action before)) := by
  rw [attempt]
  cases action before <;> rfl

theorem Parallel.attempt {one : Action σ α} {two : Action τ α} (alike : Parallel related one two) :
    Parallel related (attempt one) (attempt two) := by
  intro first second before
  rcases alike first second before with ⟨same, after⟩
  rw [came_attempt, came_attempt, left_attempt, left_attempt, same]
  exact ⟨rfl, after⟩

/-! ## Operations that only read -/

section Reading

variable {one : Peers σ} {two : Peers τ}

/-- Requests that change nothing are answered alike and keep the relation. -/
def ReadsAlike (related : Exchange σ → Exchange τ → Prop) (one : Peers σ) (two : Peers τ) : Prop :=
  ∀ uri call, call.changes = false →
    Parallel related (one.request uri call) (two.request uri call)

/-- What single reading requests leave alone, an operation made of them leaves alone: it is
an operation beside itself. -/
theorem kept_of_reading {γ : Type} (observe : Exchange σ → γ) (peers : Peers σ)
    (keeps : ∀ uri call, call.changes = false → ∀ before,
      observe (left (peers.request uri call before)) = observe before)
    {action : Action σ α}
    (parallel : ∀ {related : Exchange σ → Exchange σ → Prop}, ReadsAlike related peers peers →
      Parallel related action action) (before : Exchange σ) :
    observe (left (action before)) = observe before := by
  let same (first second : Exchange σ) : Prop := first = second ∧ observe first = observe before
  have reads : ReadsAlike same peers peers := by
    rintro uri call reading first second ⟨rfl, kept⟩
    exact ⟨rfl, rfl, (keeps uri call reading first).trans kept⟩
  exact (parallel reads before before ⟨rfl, rfl⟩).2.2

theorem parallel_onHost {fleet : Fleet} {name : String} {oneOperation : Host → Action σ α}
    {twoOperation : Host → Action τ α}
    (alike : ∀ host, Parallel related (oneOperation host) (twoOperation host)) :
    Parallel related (fleet.onHost name oneOperation) (fleet.onHost name twoOperation) :=
  (parallel_ofExcept id (fleet.host name)).bind alike

theorem parallel_gather {fleet : Fleet} {oneOperation : Host → Action σ α}
    {twoOperation : Host → Action τ α}
    (alike : ∀ host, Parallel related (oneOperation host) (twoOperation host)) :
    Parallel related (fleet.gather oneOperation) (fleet.gather twoOperation) := by
  unfold Fleet.gather
  generalize fleet.hosts = hosts
  induction hosts with
  | nil => exact parallel_pure _
  | cons host later inductionHypothesis =>
    exact (alike host).attempt.bind fun outcome =>
      inductionHypothesis.bind fun rest => parallel_pure _

variable (reads : ReadsAlike related one two) (host : Host)

include reads

theorem parallel_listContainers (all : Bool) :
    Parallel related (listContainers one host all) (listContainers two host all) :=
  (reads host.uri _ rfl).bind fun _ => parallel_ofExcept id _

theorem parallel_statsOnce (id : String) :
    Parallel related (statsOnce one host id) (statsOnce two host id) := by
  refine (reads host.uri _ rfl).attempt.bind fun outcome => ?_
  cases outcome with
  | ok document => exact parallel_pure document
  | error fault =>
    cases fault
    case peer error =>
      dsimp only
      split <;> exact parallel_throw _
    all_goals exact parallel_throw _

end Reading

end Daemon
end ContainerFleet
