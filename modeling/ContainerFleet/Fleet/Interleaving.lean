import ContainerFleet.Fleet

/-!
# Gathering while the hosts work

The hosts of a fleet are asked all at once.  Each worker reports the outcome
of its host through one queue with room for as many parcels as there are
hosts; when all have reported, a mark is put behind their reports; a collector
takes parcels out until it meets the mark.  `step?` says which of them can do
what, and a list of moves is one order in which the hosts can finish.

`Gathered.ofOutcomes` is what the gathering comes to when the outcomes are
taken in a given order.

The outcome of a host is its answer or a fault of asking it.  Faults that the
loop which carries the workers treats apart are left out: the fault by which an
iteration ends, and the loop's own cancellation.
-/

namespace ContainerFleet
namespace Fleet

variable {α : Type}

namespace Gathered

/-- Nothing gathered yet. -/
def empty : Gathered α := ⟨[], []⟩

/-- Put the outcome of one host behind those that came before it. -/
def add (gathered : Gathered α) (name : String) (outcome : Except Fault α) : Gathered α :=
  match outcome with
  | .ok value => { gathered with results := gathered.results ++ [(name, value)] }
  | .error fault => { gathered with faults := gathered.faults ++ [(name, fault)] }

/-- The outcomes of hosts, in order, as answers and faults. -/
def ofOutcomes : List (String × Except Fault α) → Gathered α
  | [] => empty
  | (name, outcome) :: later => (ofOutcomes later).cons name outcome

/-- The same answers and the same faults, in whatever order. -/
def Agree (left right : Gathered α) : Prop :=
  left.results.Perm right.results ∧ left.faults.Perm right.faults

end Gathered

namespace Gathering

/-- What travels through the queue. -/
inductive Parcel (α : Type) where
  | report (name : String) (outcome : Except Fault α)
  | allReported

/-- Workers, closer and collector, and the queue between them. -/
structure State (α : Type) where
  /-- The hosts that have not reported, with the outcome each will report. -/
  working : List (String × Except Fault α)
  /-- The mark has been put. -/
  marked : Bool
  queue : List (Parcel α)
  gathered : Gathered α
  /-- The collector has met the mark. -/
  finished : Bool

/-- What can happen. -/
inductive Move where
  /-- The worker of a host reports. -/
  | report (name : String)
  /-- The mark is put behind all reports. -/
  | mark
  /-- The collector takes the next parcel. -/
  | collect
  deriving DecidableEq, Repr

namespace State

/-- Before the first move.  Without hosts there is nothing to wait for. -/
def start (outcomes : List (String × Except Fault α)) : State α :=
  ⟨outcomes, outcomes.isEmpty, [], .empty, outcomes.isEmpty⟩

/-- Put a parcel into the queue, if there is room. -/
def put? (capacity : Nat) (state : State α) (parcel : Parcel α) : Option (State α) :=
  if state.queue.length < capacity then some { state with queue := state.queue ++ [parcel] }
  else none

/-- The worker of a host reports, if it has not. -/
def report? (capacity : Nat) (state : State α) (name : String) : Option (State α) :=
  match state.working.lookup name with
  | some outcome =>
    { state with working := state.working.eraseP fun worker => worker.1 == name }.put? capacity
      (.report name outcome)
  | none => none

def mark? (capacity : Nat) (state : State α) : Option (State α) :=
  if state.working.isEmpty && !state.marked then
    { state with marked := true }.put? capacity .allReported
  else none

/-- What the collector does with a parcel. -/
def receive (state : State α) : Parcel α → State α
  | .report name outcome => { state with gathered := state.gathered.add name outcome }
  | .allReported => { state with finished := true }

def collect? (state : State α) : Option (State α) :=
  match state.finished, state.queue with
  | false, parcel :: later => some ({ state with queue := later }.receive parcel)
  | _, _ => none

/-- The state after a move, none where the move is not possible. -/
def step? (capacity : Nat) (state : State α) : Move → Option (State α)
  | .report name => state.report? capacity name
  | .mark => state.mark? capacity
  | .collect => state.collect?

/-- The state after some moves, none where one of them is not possible. -/
def run? (capacity : Nat) : State α → List Move → Option (State α)
  | state, [] => some state
  | state, move :: later => (state.step? capacity move).bind fun state => run? capacity state later

/-- The state can arise while hosts with these outcomes are asked; the queue
has room for one parcel of each. -/
def Arises (outcomes : List (String × Except Fault α)) (state : State α) : Prop :=
  ∃ moves, run? outcomes.length (start outcomes) moves = some state

theorem run?_append (capacity : Nat) (state : State α) (first second : List Move) :
    run? capacity state (first ++ second) =
      (run? capacity state first).bind fun state => run? capacity state second := by
  induction first generalizing state with
  | nil => rfl
  | cons move later inductive_step =>
    simp only [List.cons_append, run?, Option.bind_assoc, inductive_step]

/-- What holds at the start and is kept by every move holds throughout. -/
theorem Arises.keeps {outcomes : List (String × Except Fault α)} {state : State α}
    (invariant : State α → Prop) (atStart : invariant (start outcomes))
    (kept : ∀ before after move, invariant before →
      before.step? outcomes.length move = some after → invariant after)
    (arises : Arises outcomes state) : invariant state := by
  obtain ⟨moves, ran⟩ := arises
  generalize start outcomes = first at atStart ran
  induction moves generalizing first with
  | nil =>
    cases ran
    exact atStart
  | cons move later inductive_step =>
    obtain ⟨middle, stepped, rest⟩ := Option.bind_eq_some_iff.mp ran
    exact inductive_step middle (kept first middle move atStart stepped) rest

end State
end Gathering
end Fleet
end ContainerFleet
