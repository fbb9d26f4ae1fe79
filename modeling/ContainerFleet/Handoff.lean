/-!
# Streams that are handed on

A stream hands its items to a reader one by one and then ends, cleanly or with
a fault.  A reader who stops before the end sees neither the items behind the
place where he stopped nor the fault.
-/

namespace ContainerFleet

/-- Items in order and the fault behind them, if any. -/
structure Streamed (ε α : Type) where
  items : List α
  fault : Option ε
  deriving DecidableEq, Repr

namespace Streamed

variable {ε α β : Type}

/-- What a reader sees who stops after `limit` items. -/
def upTo (streamed : Streamed ε α) (limit : Nat) : Streamed ε α :=
  if limit ≤ streamed.items.length then ⟨streamed.items.take limit, none⟩ else streamed

/-- What a reader sees who stops after some items, or reads to the end. -/
def within (streamed : Streamed ε α) : Option Nat → Streamed ε α
  | some limit => streamed.upTo limit
  | none => streamed

/-- Put an item in front. -/
def cons (item : α) (streamed : Streamed ε α) : Streamed ε α :=
  { streamed with items := item :: streamed.items }

/-- Work on each item as it comes; the first that cannot be worked on ends
the stream. -/
def mapWith (work : α → Except ε β) : List (Except ε α) → Streamed ε β
  | [] => ⟨[], none⟩
  | .error fault :: _ => ⟨[], some fault⟩
  | .ok item :: later =>
    match work item with
    | .ok result => (mapWith work later).cons result
    | .error fault => ⟨[], some fault⟩

end Streamed
end ContainerFleet
