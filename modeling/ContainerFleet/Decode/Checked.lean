/-!
# Checked values

The result of decoding a document: a value, or all the places at which the
document is not what was expected.  Combining two checked values keeps the
issues of both, in order, so no issue hides another.
-/

namespace ContainerFleet
namespace Decode

/-- A step into a document. -/
inductive Step where
  | key (name : String)
  | index (position : Nat)
  deriving DecidableEq, Repr

/-- What is wrong with one value. -/
inductive Problem where
  /-- A required member is absent. -/
  | missing
  /-- A member that the record does not have. -/
  | unexpected
  | notWhole
  | wholeText
  | wholeTooLong
  | wholeFromFraction
  | notFinite
  | notFraction
  | fractionText
  | notFlag
  | flagText
  | notText
  | notList
  | notTable
  | notRecord
  | notChoice
  | belowMinimum
  | notAboveBound
  | aboveMaximum
  /-- A rule of the setting itself is broken; the words say which. -/
  | rejected (reason : String)
  deriving DecidableEq, Repr

/-- A problem and the place of the value that has it, outermost step first. -/
structure Issue where
  place : List Step
  problem : Problem
  deriving DecidableEq, Repr

/-- A decoded value or the issues that prevent it. -/
inductive Checked (α : Type) where
  | ok (value : α)
  | failed (issues : List Issue)
  deriving DecidableEq, Repr

namespace Checked

variable {α β : Type}

/-- Apply a checked function, keeping the issues of both sides. -/
def apply : Checked (α → β) → Checked α → Checked β
  | .ok function, .ok value => .ok (function value)
  | .ok _, .failed issues => .failed issues
  | .failed issues, .ok _ => .failed issues
  | .failed first, .failed later => .failed (first ++ later)

instance : Applicative Checked where
  pure := .ok
  map function checked := apply (.ok function) checked
  seq function checked := apply function (checked ())

/-- One problem at the place of the value itself. -/
def problem (problem : Problem) : Checked α :=
  .failed [⟨[], problem⟩]

/-- Prefix the place of every issue with a step. -/
def within (step : Step) : Checked α → Checked α
  | .ok value => .ok value
  | .failed issues => .failed (issues.map fun issue => { issue with place := step :: issue.place })

/-- Go on with a further check once the value is there. -/
def andThen (checked : Checked α) (next : α → Checked β) : Checked β :=
  match checked with
  | .ok value => next value
  | .failed issues => .failed issues

/-- Check the entries of a list in order, each under its position. -/
def all (check : α → Checked β) (position : Nat) : List α → Checked (List β)
  | [] => .ok []
  | first :: later =>
    List.cons <$> (check first).within (.index position) <*> all check (position + 1) later

/-- Check the values of a table in order, each under its key. -/
def allMembers (check : α → Checked β) : List (String × α) → Checked (List (String × β))
  | [] => .ok []
  | (key, value) :: later =>
    (fun first rest => (key, first) :: rest) <$> (check value).within (.key key) <*>
      allMembers check later

def toExcept : Checked α → Except (List Issue) α
  | .ok value => .ok value
  | .failed issues => .error issues

end Checked
end Decode
end ContainerFleet
