import ContainerFleet.Daemon.Call
import ContainerFleet.Fault

/-!
# Exchanges with the outside

What daemons and webhook receivers answer is given from outside, as a function
of everything they have been told: it may be anything and change with every
request.  Operations run against such peers; the requests made are kept, so
that it can be said what an operation asked for and in which order.
-/

namespace ContainerFleet
namespace Daemon

/-- A message to a webhook receiver. -/
structure Post where
  url : String
  timeout : Json
  body : Json
  deriving BEq, Repr

/-- What came of a message: the status answered, or nothing. -/
inductive Delivery where
  | status (code : Int)
  | undelivered
  deriving DecidableEq, Repr

/-- The parties outside, with a state of any kind. -/
structure Peers (σ : Type) where
  answer : (uri : String) → (call : Call) → σ → Except PeerError call.Answer × σ
  deliver : Post → σ → Delivery × σ

/-- The state of the peers and what they have been asked, latest first. -/
structure Exchange (σ : Type) where
  peers : σ
  calls : List (String × Call)
  posts : List Post

/-- An operation that may call on daemons and may fail.  What has been said
before a failure stays said. -/
abbrev Action (σ α : Type) := EStateM Fault (Exchange σ) α

variable {σ α : Type}

/-- An exchange in which nothing has been said yet. -/
def Exchange.start (peers : σ) : Exchange σ := ⟨peers, [], []⟩

/-- Make one request to the daemon at `uri`. -/
def Peers.request (peers : Peers σ) (uri : String) (call : Call) : Action σ call.Answer :=
  fun exchange =>
    match peers.answer uri call exchange.peers with
    | (.ok answer, state) =>
      .ok answer { exchange with peers := state, calls := (uri, call) :: exchange.calls }
    | (.error error, state) =>
      .error (.peer error) { exchange with peers := state, calls := (uri, call) :: exchange.calls }

/-- Send one message to a webhook receiver. -/
def Peers.send (peers : Peers σ) (post : Post) : Action σ Delivery := fun exchange =>
  let (delivery, state) := peers.deliver post exchange.peers
  .ok delivery { exchange with peers := state, posts := post :: exchange.posts }

/-- The outcome of an operation as a value; it no longer fails. -/
def attempt (action : Action σ α) : Action σ (Except Fault α) := fun exchange =>
  match action exchange with
  | .ok value exchange => .ok (.ok value) exchange
  | .error fault exchange => .ok (.error fault) exchange

/-- Run an operation and pass over its failure. -/
def ignoring (action : Action σ Unit) : Action σ Unit := do
  let _ ← attempt action

/-- A step that involves no peer. -/
def ofExcept {ε : Type} (cause : ε → Fault) : Except ε α → Action σ α
  | .ok value => pure value
  | .error error => throw (cause error)

/-- Run `action` and then `last`, also where `action` fails.  A failure of
`last` takes the place of the outcome of `action`. -/
def closing (action : Action σ α) (last : Action σ Unit) : Action σ α := do
  let outcome ← attempt action
  last
  ofExcept id outcome

end Daemon
end ContainerFleet
