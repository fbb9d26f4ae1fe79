import ContainerFleet.Handoff

/-!
# Handing on while the producer works

A stream reaches its reader through a bounded queue.  The producer puts one
parcel at a time and waits until there is room for it; the reader takes
parcels out and may stop at any moment.  `step?` says what each side can do
next, and a list of moves is one way in which the two can interleave.

Nothing is said about time.  A move that is possible need not be made, so what
holds after every list of moves holds however fast the two sides are.

All this begins with the first read.  A stream whose reader leaves before he has
read at all was never begun: its producer does not run, and its source is not
told to close.

A fault is one of the producer or of the source.  Those that the loop which
carries both sides treats apart are left out: the fault by which an iteration
ends, and the loop's own cancellation.
-/

namespace ContainerFleet
namespace Handoff

/-- What travels through the queue: an item, the fault that ended the
producer's loop, or the mark of a clean end. -/
inductive Parcel (ε α : Type) where
  | item (value : α)
  | failure (fault : ε)
  | ending
  deriving DecidableEq, Repr

/-- The item in a parcel. -/
def Parcel.item? {ε α : Type} : Parcel ε α → Option α
  | .item value => some value
  | .failure _ => none
  | .ending => none

/-- Why a reader stopped. -/
inductive Stop (ε : Type) where
  /-- The stream came to its clean end. -/
  | ended
  /-- The fault of the stream was passed on. -/
  | failed (fault : ε)
  /-- The reader wanted no more. -/
  | left
  deriving DecidableEq, Repr

/-- Where the reader is.  Once he stops, the stop is announced to the producer
and the source is still to be closed. -/
inductive Reader (ε : Type) where
  | reading
  | stopping (reason : Stop ε)
  | gone (reason : Stop ε)
  deriving DecidableEq, Repr

namespace Reader

variable {ε : Type}

/-- The reader still takes parcels. -/
def reads : Reader ε → Bool
  | .reading => true
  | _ => false

/-- Why the reader stopped, once he has. -/
def reason? : Reader ε → Option (Stop ε)
  | .reading => none
  | .stopping reason => some reason
  | .gone reason => some reason

end Reader

/-- Both sides and the queue between them, with what has been done so far. -/
structure State (ε α : Type) where
  /-- What the producer has still to do: items to emit and the fault that then
  ends his loop, if any. -/
  ahead : Streamed ε α
  /-- The producer's loop has not ended. -/
  working : Bool
  /-- The parcel that waits for room. -/
  inFlight : Option (Parcel ε α)
  queue : List (Parcel ε α)
  /-- Items that were put while the reader was reading. -/
  emitted : List α
  /-- Items whose emission was refused because the reader had stopped. -/
  refused : List α
  yielded : List α
  reader : Reader ε
  /-- How often the source was told to close. -/
  closings : Nat
  deriving DecidableEq, Repr

/-- What either side can do. -/
inductive Move where
  /-- The producer emits his next item. -/
  | emit
  /-- The producer's loop ends, with nothing left to emit. -/
  | finish
  /-- The producer gives up because the reader has stopped. -/
  | abandon
  /-- The waiting parcel enters the queue. -/
  | deliver
  /-- The waiting parcel is called back because the reader has stopped. -/
  | callBack
  /-- The reader takes the next parcel. -/
  | take
  /-- The reader stops of his own accord. -/
  | leave
  /-- The source is told to close, which may fail. -/
  | close (failing : Bool)
  deriving DecidableEq, Repr

namespace State

variable {ε α : Type}

/-- The reader reads for the first time, and no move was made yet. -/
def start (stream : Streamed ε α) : State ε α :=
  ⟨stream, true, none, [], [], [], [], .reading, 0⟩

/-- The producer is between two parcels. -/
def isFree (state : State ε α) : Bool :=
  state.working && state.inFlight.isNone

/-- The producer puts his next item, which is refused once the reader has
stopped. -/
def emit? (state : State ε α) : Option (State ε α) :=
  match state.isFree, state.ahead.items with
  | true, item :: later =>
    let state := { state with ahead := { state.ahead with items := later } }
    if state.reader.reads then
      some { state with inFlight := some (.item item), emitted := state.emitted ++ [item] }
    else some { state with refused := state.refused ++ [item] }
  | _, _ => none

/-- The parcel that tells the reader how the producer's loop ended. -/
def lastParcel (state : State ε α) : Parcel ε α :=
  match state.ahead.fault with
  | some fault => .failure fault
  | none => .ending

/-- The producer's loop ends.  The reader is told, unless he has stopped. -/
def finish? (state : State ε α) : Option (State ε α) :=
  match state.isFree, state.ahead.items with
  | true, [] =>
    let state := { state with working := false }
    some (if state.reader.reads then { state with inFlight := some state.lastParcel } else state)
  | _, _ => none

def abandon? (state : State ε α) : Option (State ε α) :=
  if state.isFree && !state.reader.reads then some { state with working := false } else none

/-- The waiting parcel enters the queue, if there is room. -/
def deliver? (capacity : Nat) (state : State ε α) : Option (State ε α) :=
  match state.inFlight with
  | some parcel =>
    if state.queue.length < capacity then
      some { state with inFlight := none, queue := state.queue ++ [parcel] }
    else none
  | none => none

def callBack? (state : State ε α) : Option (State ε α) :=
  if state.inFlight.isSome && !state.reader.reads then some { state with inFlight := none }
  else none

/-- What the reader does with a parcel. -/
def receive (state : State ε α) : Parcel ε α → State ε α
  | .item value => { state with yielded := state.yielded ++ [value] }
  | .failure fault => { state with reader := .stopping (.failed fault) }
  | .ending => { state with reader := .stopping .ended }

def take? (state : State ε α) : Option (State ε α) :=
  match state.reader.reads, state.queue with
  | true, parcel :: later => some ({ state with queue := later }.receive parcel)
  | _, _ => none

def leave? (state : State ε α) : Option (State ε α) :=
  if state.reader.reads then some { state with reader := .stopping .left } else none

/-- Close the source.  Whether that fails makes no difference to the reader. -/
def close? (state : State ε α) : Option (State ε α) :=
  match state.reader with
  | .stopping reason =>
    some { state with reader := .gone reason, closings := state.closings + 1 }
  | _ => none

/-- The state after a move, none where the move is not possible. -/
def step? (capacity : Nat) (state : State ε α) : Move → Option (State ε α)
  | .emit => state.emit?
  | .finish => state.finish?
  | .abandon => state.abandon?
  | .deliver => state.deliver? capacity
  | .callBack => state.callBack?
  | .take => state.take?
  | .leave => state.leave?
  | .close _ => state.close?

/-- The state after some moves, none where one of them is not possible. -/
def run? (capacity : Nat) : State ε α → List Move → Option (State ε α)
  | state, [] => some state
  | state, move :: later => (state.step? capacity move).bind fun state => run? capacity state later

/-- The state can arise while a stream is handed on. -/
def Arises (capacity : Nat) (stream : Streamed ε α) (state : State ε α) : Prop :=
  ∃ moves, run? capacity (start stream) moves = some state

/-- What the reader has seen: the items, and the fault if it was passed on. -/
def seen (state : State ε α) : Streamed ε α :=
  match state.reader.reason? with
  | some (.failed fault) => ⟨state.yielded, some fault⟩
  | _ => ⟨state.yielded, none⟩

theorem run?_append (capacity : Nat) (state : State ε α) (first second : List Move) :
    run? capacity state (first ++ second) =
      (run? capacity state first).bind fun state => run? capacity state second := by
  induction first generalizing state with
  | nil => rfl
  | cons move later inductive_step =>
    simp only [List.cons_append, run?, Option.bind_assoc, inductive_step]

/-- What holds at the start and is kept by every move holds throughout. -/
theorem Arises.keeps {capacity : Nat} {stream : Streamed ε α} {state : State ε α}
    (invariant : State ε α → Prop) (atStart : invariant (start stream))
    (kept : ∀ before after move, invariant before → before.step? capacity move = some after →
      invariant after)
    (arises : Arises capacity stream state) : invariant state := by
  obtain ⟨moves, ran⟩ := arises
  generalize start stream = first at atStart ran
  induction moves generalizing first with
  | nil =>
    cases ran
    exact atStart
  | cons move later inductive_step =>
    obtain ⟨middle, stepped, rest⟩ := Option.bind_eq_some_iff.mp ran
    exact inductive_step middle (kept first middle move atStart stepped) rest

end State
end Handoff
end ContainerFleet
