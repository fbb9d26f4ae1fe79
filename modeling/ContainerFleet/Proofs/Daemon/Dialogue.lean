import ContainerFleet.Proofs.Outcome
import ContainerFleet.Stats.Reading

/-!
# Dialogues with one daemon

An operation on a host is a dialogue with its daemon: a request, and what is done
next depends on the answer and on nothing else.  What a daemon answers may depend on
all that it was told before.  Two runs of one dialogue with daemons that give the same
answers are therefore the same run.

The listing of a host and the reading of its figures are given as dialogues here, and
holding them with the daemon of the host is the operation itself.
-/

namespace ContainerFleet
namespace Daemon

/-- A request and what came of it. -/
structure Turn where
  call : Call
  answer : Except PeerError call.Answer

/-- The daemon did what it was asked for. -/
def Turn.succeeds (turn : Turn) : Bool :=
  turn.answer.isOk

/-- What a daemon answers to a request after the requests made before it. -/
abbrev Mind := List Call → (call : Call) → Except PeerError call.Answer

namespace Mind

/-- In these turns the daemon, which was told something already, answers as it does. -/
def Speaks (mind : Mind) : List Call → List Turn → Prop
  | _, [] => True
  | told, turn :: later =>
    turn.answer = mind told turn.call ∧ mind.Speaks (told ++ [turn.call]) later

theorem speaks_append (mind : Mind) (told : List Call) (first second : List Turn) :
    mind.Speaks told (first ++ second) ↔
      mind.Speaks told first ∧ mind.Speaks (told ++ first.map Turn.call) second := by
  induction first generalizing told with
  | nil => rw [List.nil_append, List.map_nil, List.append_nil, Speaks, true_and]
  | cons turn later inductionHypothesis =>
    rw [List.cons_append, Speaks, Speaks, inductionHypothesis, and_assoc, List.map_cons,
      List.append_assoc, List.singleton_append]

end Mind

/-- In these turns the daemon at `uri` answers as the peers do, from one exchange to the
other. -/
def Peers.Gives {σ : Type} (peers : Peers σ) (uri : String) :
    Exchange σ → List Turn → Exchange σ → Prop
  | before, [], after => after = before
  | before, turn :: later, after =>
    let answered := peers.answer uri turn.call before.peers
    turn.answer = answered.1 ∧ peers.Gives uri
      { before with peers := answered.2, calls := (uri, turn.call) :: before.calls } later after

theorem Peers.Gives.answered {σ : Type} {peers : Peers σ} {uri : String} {turns : List Turn}
    {before after : Exchange σ} (gives : peers.Gives uri before turns after) {turn : Turn}
    (member : turn ∈ turns) : ∃ state, turn.answer = (peers.answer uri turn.call state).1 := by
  induction turns generalizing before with
  | nil => cases member
  | cons first later inductionHypothesis =>
    rcases List.mem_cons.mp member with rfl | inLater
    · exact ⟨before.peers, gives.1⟩
    · exact inductionHypothesis gives.2 inLater

/-- What is said to a daemon: nothing more, or a request and then whatever its
answer leads to. -/
inductive Dialogue (α : Type) where
  | done (outcome : Except Fault α)
  | ask (call : Call) (next : Except PeerError call.Answer → Dialogue α)

namespace Dialogue

variable {σ α β : Type}

/-- Go on with what a dialogue came to. -/
def andThen (following : Except Fault α → Dialogue β) : Dialogue α → Dialogue β
  | .done outcome => following outcome
  | .ask call next => .ask call fun answer => (next answer).andThen following

/-- A dialogue can take these turns and then comes to this outcome. -/
inductive Runs : Dialogue α → List Turn → Except Fault α → Prop
  | done (outcome : Except Fault α) : Runs (.done outcome) [] outcome
  | ask {call : Call} {next : Except PeerError call.Answer → Dialogue α}
      (answer : Except PeerError call.Answer) {turns : List Turn} {outcome : Except Fault α} :
      Runs (next answer) turns outcome → Runs (.ask call next) (⟨call, answer⟩ :: turns) outcome

/-- The answers settle a dialogue. -/
theorem Runs.unique {dialogue : Dialogue α} {mind : Mind} {told : List Call}
    {first second : List Turn} {one two : Except Fault α} (runsOne : dialogue.Runs first one)
    (runsTwo : dialogue.Runs second two) (speaksOne : mind.Speaks told first)
    (speaksTwo : mind.Speaks told second) : first = second ∧ one = two := by
  induction runsOne generalizing told second with
  | done outcome =>
    cases runsTwo
    exact ⟨rfl, rfl⟩
  | @ask call next answer turns outcome _ inductionHypothesis =>
    cases runsTwo with
    | ask other runs =>
      -- Both answers are what the daemon says to this request.
      have same : answer = other := speaksOne.1.trans speaksTwo.1.symm
      subst same
      rcases inductionHypothesis runs speaksOne.2 speaksTwo.2 with ⟨rfl, rfl⟩
      exact ⟨rfl, rfl⟩

theorem Runs.andThen {dialogue : Dialogue α} {following : Except Fault α → Dialogue β}
    {first second : List Turn} {one : Except Fault α} {two : Except Fault β}
    (runs : dialogue.Runs first one) (goesOn : (following one).Runs second two) :
    (dialogue.andThen following).Runs (first ++ second) two := by
  induction runs with
  | done outcome => exact goesOn
  | ask answer _ inductionHypothesis => exact .ask answer (inductionHypothesis goesOn)

/-- The dialogue makes only such requests, whatever is answered. -/
def Only (allowed : Call → Prop) : Dialogue α → Prop
  | .done _ => True
  | .ask call next => allowed call ∧ ∀ answer, (next answer).Only allowed

theorem Runs.only {allowed : Call → Prop} {dialogue : Dialogue α} {turns : List Turn}
    {outcome : Except Fault α} (runs : dialogue.Runs turns outcome)
    (only : dialogue.Only allowed) : ∀ turn ∈ turns, allowed turn.call := by
  induction runs with
  | done outcome => exact List.forall_mem_nil _
  | ask answer _ inductionHypothesis =>
    exact List.forall_mem_cons.mpr ⟨only.1, inductionHypothesis (only.2 answer)⟩

/-! ## Holding a dialogue -/

/-- Hold a dialogue with the daemon at `uri`. -/
def hold (peers : Peers σ) (uri : String) : Dialogue α → Action σ α
  | .done outcome => ofExcept id outcome
  | .ask call next => fun exchange =>
    let answered := peers.answer uri call exchange.peers
    (next answered.1).hold peers uri
      { exchange with peers := answered.2, calls := (uri, call) :: exchange.calls }

/-- The requests of some turns as an exchange keeps them, latest first. -/
def requests (uri : String) (turns : List Turn) : List (String × Call) :=
  (turns.map fun turn => (uri, turn.call)).reverse

theorem calls_of_gives {peers : Peers σ} {uri : String} {turns : List Turn}
    {before after : Exchange σ} (gives : peers.Gives uri before turns after) :
    after.calls = requests uri turns ++ before.calls := by
  induction turns generalizing before with
  | nil =>
    cases gives
    rfl
  | cons turn later inductionHypothesis =>
    rw [inductionHypothesis gives.2, requests, requests, List.map_cons, List.reverse_cons,
      List.append_assoc]
    rfl

/-- A dialogue that is held runs with the answers of the daemon. -/
theorem gives_of_hold (peers : Peers σ) (uri : String) (dialogue : Dialogue α)
    (before : Exchange σ) :
    ∃ turns outcome after, attempt (dialogue.hold peers uri) before = .ok outcome after ∧
      dialogue.Runs turns outcome ∧ peers.Gives uri before turns after := by
  induction dialogue generalizing before with
  | done outcome =>
    refine ⟨[], outcome, before, ?_, .done outcome, rfl⟩
    cases outcome <;> rfl
  | ask call next inductionHypothesis =>
    let answered := peers.answer uri call before.peers
    rcases inductionHypothesis answered.1
        { before with peers := answered.2, calls := (uri, call) :: before.calls } with
      ⟨turns, outcome, after, held, runs, gives⟩
    exact ⟨⟨call, answered.1⟩ :: turns, outcome, after, held, .ask answered.1 runs, rfl, gives⟩

theorem runs_of_hold (peers : Peers σ) (uri : String) (dialogue : Dialogue α)
    (before : Exchange σ) :
    ∃ turns outcome after, attempt (dialogue.hold peers uri) before = .ok outcome after ∧
      dialogue.Runs turns outcome ∧ after.calls = requests uri turns ++ before.calls := by
  rcases gives_of_hold peers uri dialogue before with
    ⟨turns, outcome, after, held, runs, gives⟩
  exact ⟨turns, outcome, after, held, runs, calls_of_gives gives⟩

theorem hold_andThen (peers : Peers σ) (uri : String) (following : Except Fault α → Dialogue β)
    (dialogue : Dialogue α) :
    (dialogue.andThen following).hold peers uri =
      attempt (dialogue.hold peers uri) >>= fun outcome => (following outcome).hold peers uri := by
  funext before
  induction dialogue generalizing before with
  | done outcome => cases outcome <;> rfl
  | ask call next inductionHypothesis => exact inductionHypothesis _ _

/-- What passes a fault on need not look at the outcome. -/
theorem attempt_bind {action : Action σ α} {next : Except Fault α → Action σ β}
    (passes : ∀ fault, next (.error fault) = throw fault) :
    attempt action >>= next = action >>= fun value => next (.ok value) := by
  funext before
  rcases attempt_cases action before with ⟨value, after, ran, attempted⟩ |
    ⟨fault, after, failed, attempted⟩
  · rw [bind_of_ran attempted, bind_of_ran ran]
  · rw [bind_of_ran attempted, passes]
    change _ = EStateM.bind action _ before
    rw [EStateM.bind, failed]
    rfl

/-! ## The operations of a scan -/

section Operations

variable (host : Host)

/-- List all containers. -/
def listing : Dialogue (List Container) :=
  .ask (.containers true) fun answer => .done <|
    (answer.mapError Fault.peer).bind (readListing (Container.columns · host.name) Container.decode)

/-- The fault that an answer without a statistics document is. -/
def unread (id : String) (error : PeerError) : Fault :=
  if error.kind = .badValue then .unreadableStats s!" for {id}" error else .peer error

/-- Read the figures of one container. -/
def reading (id : String) : Dialogue Stats.Usage :=
  .ask (.stats id) fun answer => .done <|
    (answer.mapError (unread id)).bind (Stats.figures id host.name)

/-- Read the figures of those of some containers that run. -/
def figures : List Container → Dialogue (List Stats.Usage)
  | [] => .done (.ok [])
  | container :: later =>
    if container.running then
      (reading host container.id).andThen fun outcome =>
        (figures later).andThen fun rest => .done (rest.map (outcome.toOption.toList ++ ·))
    else figures later

/-- Read the figures of all containers that run, as they are listed now. -/
def sweep : Dialogue (List Stats.Usage) :=
  (listing host).andThen fun listed =>
    match listed with
    | .ok containers => figures host containers
    | .error fault => .done (.error fault)

variable (peers : Peers σ)

theorem hold_listing : (listing host).hold peers host.uri = listContainers peers host true := by
  funext before
  change _ = EStateM.bind (peers.request host.uri (.containers true)) _ before
  rcases said : peers.answer host.uri (.containers true) before.peers with ⟨answer, state⟩
  rw [EStateM.bind, Peers.request, said, listing, hold]
  dsimp only
  rw [said]
  cases answer <;> rfl

theorem hold_reading (id : String) :
    (reading host id).hold peers host.uri = Stats.readOnce peers host id := by
  funext before
  change _ = EStateM.bind (statsOnce peers host id) _ before
  rcases said : peers.answer host.uri (.stats id) before.peers with ⟨answer, state⟩
  have document : statsOnce peers host id before = ofExcept (unread id) answer
      { before with peers := state, calls := (host.uri, .stats id) :: before.calls } := by
    change EStateM.bind (attempt (peers.request host.uri (.stats id))) _ before = _
    rw [EStateM.bind, attempt, Peers.request, said]
    cases answer with
    | ok document => rfl
    | error error =>
      rw [ofExcept, unread]
      dsimp only
      split <;> rfl
  rw [EStateM.bind, document, reading, hold]
  dsimp only
  rw [said]
  cases answer <;> rfl

theorem hold_figures (containers : List Container) :
    (figures host containers).hold peers host.uri = Stats.sweepFrom peers host containers := by
  induction containers with
  | nil => rfl
  | cons container later inductionHypothesis =>
    rw [figures, Stats.sweepFrom]
    split
    · rw [hold_andThen, hold_reading]
      congr 1
      funext outcome
      rw [hold_andThen, inductionHypothesis]
      exact attempt_bind fun fault => rfl
    · exact inductionHypothesis

theorem hold_sweep : (sweep host).hold peers host.uri = Stats.sweep peers host := by
  rw [sweep, hold_andThen, hold_listing, attempt_bind fun fault => rfl, Stats.sweep]
  congr 1
  funext containers
  exact hold_figures host peers containers

end Operations

end Dialogue
end Daemon
end ContainerFleet
