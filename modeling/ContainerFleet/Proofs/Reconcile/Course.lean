import ContainerFleet.Proofs.Daemon.Dialogue
import ContainerFleet.Reconcile.Run

/-!
# The course of a reconciliation

A reconciliation removes a container before the new one exists, so what its record says
must be true wherever it stops.  `Book` is what record and calls have to do with each
other.  It holds at the start and every step keeps it, whether the call of the step is
answered or refused; each way in which a run can end is then one step behind a course of
which it holds.

The daemon is any daemon.  Nothing is assumed of the description that it gives, which need
not even be an object, and of the container that it creates only that its id is a text:
an id of another kind is not reported as a failure of a step.
-/

namespace ContainerFleet
namespace Reconcile

open Daemon

variable {α σ : Type}

/-! ## A run as a dialogue -/

/-- How a run fails in the step that its record is in. -/
def failure (record : Record) (fault : Fault) : Fault :=
  .reconcile record.state fault.message (record.fail fault.message)

/-- Make the call of a step and go on with its answer. -/
def step (record : Record) (call : Call) (next : call.Answer → Dialogue Record) :
    Dialogue Record :=
  .ask call fun answer =>
    match answer with
    | .ok value => next value
    | .error error => .done (.error (failure record (.peer error)))

/-- Go on with what was worked out from an answer. -/
def worked (record : Record) (outcome : Except ShapeError α) (next : α → Dialogue Record) :
    Dialogue Record :=
  match outcome with
  | .ok value => next value
  | .error error => .done (.error (failure record (.shape error)))

/-- The name under which the new container is created, if the first one had any. -/
def newName (record : Record) : Option String :=
  if record.containerName.isEmpty then none else some record.containerName

/-- Replace a container by one that is created with these settings. -/
def replacing (id : String) (record : Record) (config : Json) : Dialogue Record :=
  let record := record.enter .stopping
  step record (.stop id) fun _ =>
  let record := record.enter .removing
  step record (.remove id) fun _ =>
  let record := record.enter .creating
  step record (.create config (newName record)) fun document =>
  worked record (document.demand "Id") fun newId =>
  let record := { record with newContainerId := some newId }.enter .starting
  step record (.start newId) fun _ =>
  .done (((reportable newId).mapError .shape).map fun _ => record.enter .done)

def course (host : Host) (id : String) (desired : Env) : Dialogue Record :=
  let record := Record.start host.name id
  step record (.inspectContainer id) fun description =>
  let (record, prepared) := prepare record description desired
  worked record prepared fun config => replacing id record config

theorem hold_step (peers : Peers σ) (uri : String) (record : Record) (call : Call)
    (next : call.Answer → Dialogue Record) :
    (step record call next).hold peers uri =
      during record (peers.request uri call) >>= fun value => (next value).hold peers uri := by
  funext before
  rcases said : peers.answer uri call before.peers with ⟨answer, state⟩
  change _ = EStateM.bind (EStateM.bind (attempt (peers.request uri call)) _) _ before
  rw [EStateM.bind, EStateM.bind, attempt, Peers.request, said, step, Dialogue.hold]
  dsimp only
  rw [said]
  cases answer <;> rfl

theorem hold_worked (peers : Peers σ) (uri : String) (record : Record)
    (outcome : Except ShapeError α) (next : α → Dialogue Record) :
    (worked record outcome next).hold peers uri =
      during record (ofExcept .shape outcome) >>= fun value => (next value).hold peers uri := by
  cases outcome <;> rfl

theorem during_bind (record : Record) {β : Type} (first : Action σ α) (next : α → Action σ β) :
    during record (first >>= next) =
      during record first >>= fun value => during record (next value) := by
  funext before
  change EStateM.bind (attempt (EStateM.bind first next)) _ before =
    EStateM.bind (EStateM.bind (attempt first) _) _ before
  rw [EStateM.bind, EStateM.bind, EStateM.bind, attempt, attempt, EStateM.bind]
  cases first before <;> rfl

/-- Holding the dialogue is running the reconciliation. -/
theorem hold_course (peers : Peers σ) (host : Host) (id : String) (desired : Env) :
    (course host id desired).hold peers host.uri = run peers host id desired := by
  rw [course, run, hold_step]
  congr 1
  funext description
  rcases prepare (Record.start host.name id) description desired with ⟨record, prepared⟩
  dsimp only
  rw [hold_worked]
  congr 1
  funext config
  rw [replacing, hold_step]
  congr 1
  funext _
  rw [hold_step]
  congr 1
  funext _
  rw [hold_step, createContainer, during_bind, bind_assoc]
  congr 1
  funext document
  rw [hold_worked]
  congr 1
  funext newId
  rw [hold_step]
  congr 1
  funext _
  rw [Dialogue.hold]
  cases reportable newId <;> rfl

/-- A step ends the run where its call is refused, and otherwise the run goes on. -/
theorem runs_step {record : Record} {call : Call} {next : call.Answer → Dialogue Record}
    {turns : List Turn} {outcome : Except Fault Record}
    (runs : (step record call next).Runs turns outcome) :
    (∃ error, turns = [⟨call, .error error⟩] ∧
      outcome = .error (failure record (.peer error))) ∨
    (∃ value later, turns = ⟨call, .ok value⟩ :: later ∧ (next value).Runs later outcome) := by
  rw [step] at runs
  cases runs with
  | ask answer goesOn =>
    cases answer with
    | ok value => exact .inr ⟨value, _, rfl, goesOn⟩
    | error error =>
      cases goesOn
      exact .inl ⟨error, rfl, rfl⟩

/-! ## Record and calls -/

/-- The state in which a call is made; a container is inspected in the state found. -/
def State.of : Call → State
  | .stop _ => .stopping
  | .remove _ => .removing
  | .create _ _ => .creating
  | .start _ => .starting
  | _ => .current

/-- What a record says of the calls that were made. -/
structure Book (id : String) (turns : List Turn) (record : Record) : Prop where
  history : record.history = turns.map (fun turn => State.of turn.call) ++ [record.state]
  created : ∀ newId, record.newContainerId = some newId ↔ ∃ config name document,
    (⟨.create config name, .ok document⟩ : Turn) ∈ turns ∧ document.demand "Id" = .ok newId
  removed : record.originalRemoved = true ↔
    ∃ turn ∈ turns, turn.call = .remove id ∧ turn.succeeds = true

variable {host : Host} {id : String} {desired : Env} {turns : List Turn} {record later : Record}

theorem book_start (host id : String) : Book id [] (Record.start host id) where
  history := rfl
  created := by simp [Record.start]
  removed := by simp [Record.start, Record.originalRemoved]

/-- The record stays true when the call that is due is made and another state entered,
which is that of creating just if the container is now removed. -/
theorem Book.next (book : Book id turns record) {turn : Turn}
    (due : State.of turn.call = record.state)
    (entered : later.history = record.history ++ [later.state])
    (created : ∀ newId, later.newContainerId = some newId ↔ record.newContainerId = some newId ∨
      ∃ config name document, (⟨.create config name, .ok document⟩ : Turn) = turn ∧
        document.demand "Id" = .ok newId)
    (removed : later.state = .creating ↔ turn.call = .remove id ∧ turn.succeeds = true) :
    Book id (turns ++ [turn]) later where
  history := by
    rw [entered, book.history, List.map_append, List.map_singleton, due]
  created := by
    intro newId
    rw [created, book.created]
    constructor
    · rintro (⟨config, name, document, member, found⟩ | ⟨config, name, document, rfl, found⟩)
      · exact ⟨config, name, document, List.mem_append_left _ member, found⟩
      · exact ⟨config, name, document, List.mem_append_right _ List.mem_cons_self, found⟩
    · rintro ⟨config, name, document, member, found⟩
      rcases List.mem_append.mp member with before | now
      · exact .inl ⟨config, name, document, before, found⟩
      · exact .inr ⟨config, name, document, List.mem_singleton.mp now, found⟩
  removed := by
    have split : later.originalRemoved = true ↔
        record.originalRemoved = true ∨ later.state = .creating := by
      rw [Record.originalRemoved, Record.originalRemoved, List.contains_iff_mem,
        List.contains_iff_mem, entered, List.mem_append, List.mem_singleton,
        @eq_comm _ State.creating]
    rw [split, book.removed, removed]
    constructor
    · rintro (⟨earlier, member, removes⟩ | removes)
      · exact ⟨earlier, List.mem_append_left _ member, removes⟩
      · exact ⟨turn, List.mem_append_right _ List.mem_cons_self, removes⟩
    · rintro ⟨other, member, removes⟩
      rcases List.mem_append.mp member with before | now
      · exact .inl ⟨other, before, removes⟩
      · rw [List.mem_singleton.mp now] at removes
        exact .inr removes

theorem Book.refused (book : Book id turns record) {call : Call} {error : PeerError}
    (due : State.of call = record.state) (reason : String) :
    Book id (turns ++ [⟨call, .error error⟩]) (record.fail reason) := by
  refine book.next due rfl ?_ ?_
  · intro newId
    constructor
    · exact .inl
    · rintro (same | ⟨_, _, _, wrong, _⟩)
      · exact same
      · cases wrong
  · constructor
    · intro wrong
      cases wrong
    · rintro ⟨_, wrong⟩
      cases wrong

theorem Book.answered (book : Book id turns record) (call : Call) (value : call.Answer)
    (state : State) (due : State.of call = record.state) (other : record.state ≠ .creating)
    (removed : state = .creating ↔ call = .remove id) :
    Book id (turns ++ [⟨call, .ok value⟩]) (record.enter state) := by
  refine book.next due rfl ?_ ?_
  · intro newId
    constructor
    · exact .inl
    · rintro (same | ⟨_, _, _, wrong, _⟩)
      · exact same
      · cases wrong
        exact absurd due.symm other
  · exact removed.trans (and_iff_left rfl).symm

theorem Book.created_now (book : Book id turns record) {config document newId : Json}
    {name : Option String} (due : record.state = .creating)
    (fresh : record.newContainerId = none) (named : document.demand "Id" = .ok newId) :
    Book id (turns ++ [⟨.create config name, .ok document⟩])
      ({ record with newContainerId := some newId }.enter .starting) := by
  refine book.next due.symm rfl ?_ ?_
  · intro other
    constructor
    · intro same
      cases same
      exact .inr ⟨config, name, document, rfl, named⟩
    · rintro (wrong | ⟨_, _, _, same, found⟩)
      · cases fresh.symm.trans wrong
      · cases same
        cases named.symm.trans found
        rfl
  · constructor
    · intro wrong
      cases wrong
    · rintro ⟨wrong, _⟩
      cases wrong

/-! ## The whole run -/

/-- The calls of a run that comes to its end. -/
def plan (id : String) (config : Json) (name : Option String) (newId : Json) : List Call :=
  [.inspectContainer id, .stop id, .remove id, .create config name, .start newId]

/-- The calls of a run are the beginning of a plan.  A change is made only when the
description was given and all that the new container needs was worked out from it, and the
container started is the one created. -/
def Planned (host : Host) (id : String) (desired : Env) (turns : List Turn)
    (record : Record) : Prop :=
  ∃ config name newId, turns.map Turn.call <+: plan id config name newId ∧
    (1 < turns.length → ∃ description,
      turns.head? = some ⟨.inspectContainer id, .ok description⟩ ∧
      (prepare (.start host.name id) description desired).2 = .ok config) ∧
    (4 < turns.length → record.newContainerId = some newId)

/-- Why a run failed: its last call was refused, or what the daemon gave cannot be used. -/
inductive Cause (host : Host) (id : String) (desired : Env) : List Turn → Fault → Prop
  | refused (earlier : List Turn) (call : Call) (error : PeerError) :
      Cause host id desired (earlier ++ [⟨call, .error error⟩]) (.peer error)
  | unusable {description : Json} {error : ShapeError} :
      (prepare (.start host.name id) description desired).2 = .error error →
      Cause host id desired [⟨.inspectContainer id, .ok description⟩] (.shape error)

/-- What a caller can rely on when a run has ended. -/
structure Account (host : Host) (id : String) (desired : Env) (turns : List Turn)
    (record : Record) (outcome : Except Fault Record) : Prop where
  subject : record.host = host.name ∧ record.containerId = id
  planned : Planned host id desired turns record
  answered : ∀ turn ∈ turns.dropLast, turn.succeeds = true
  book : Book id turns record
  returned : outcome = .ok record ↔ turns.length = 5 ∧ ∀ turn ∈ turns, turn.succeeds = true
  done : outcome = .ok record →
    record.state = .done ∧ record.failedStep = none ∧ record.error = none
  failed : outcome ≠ .ok record → ∃ last cause, turns.getLast? = some last ∧
    Cause host id desired turns cause ∧
    outcome = .error (.reconcile (State.of last.call) cause.message record) ∧
    record.state = .failed ∧ record.failedStep = some (State.of last.call) ∧
    record.error = some cause.message

/-- A run in which every call was answered so far. -/
structure Underway (host : Host) (id : String) (turns : List Turn) (record : Record) : Prop where
  subject : record.host = host.name ∧ record.containerId = id
  unfailed : record.failedStep = none ∧ record.error = none
  succeeded : ∀ turn ∈ turns, turn.succeeds = true
  book : Book id turns record

theorem succeeded_snoc (succeeded : ∀ turn ∈ turns, turn.succeeds = true) {last : Turn}
    (succeeds : last.succeeds = true) : ∀ turn ∈ turns ++ [last], turn.succeeds = true := by
  intro turn member
  rcases List.mem_append.mp member with before | now
  · exact succeeded turn before
  · rw [List.mem_singleton.mp now]
    exact succeeds

theorem Underway.answered (underway : Underway host id turns record) (call : Call)
    (value : call.Answer) (state : State) (due : State.of call = record.state)
    (other : record.state ≠ .creating) (removed : state = .creating ↔ call = .remove id) :
    Underway host id (turns ++ [⟨call, .ok value⟩]) (record.enter state) where
  subject := underway.subject
  unfailed := underway.unfailed
  succeeded := succeeded_snoc underway.succeeded rfl
  book := underway.book.answered call value state due other removed

theorem Underway.created (underway : Underway host id turns record) (config : Json)
    (name : Option String) {document newId : Json} (due : record.state = .creating)
    (fresh : record.newContainerId = none) (named : document.demand "Id" = .ok newId) :
    Underway host id (turns ++ [⟨.create config name, .ok document⟩])
      ({ record with newContainerId := some newId }.enter .starting) where
  subject := underway.subject
  unfailed := underway.unfailed
  succeeded := succeeded_snoc underway.succeeded rfl
  book := underway.book.created_now due fresh named

theorem Underway.account_of_end (underway : Underway host id turns record)
    (planned : Planned host id desired turns record) (whole : turns.length = 5)
    (done : record.state = .done) : Account host id desired turns record (.ok record) where
  subject := underway.subject
  planned := planned
  answered := fun turn member => underway.succeeded turn (List.dropLast_subset _ member)
  book := underway.book
  returned := iff_of_true rfl ⟨whole, underway.succeeded⟩
  done := fun _ => ⟨done, underway.unfailed⟩
  failed := fun wrong => absurd rfl wrong

/-- The account of a run that fails in the step that its record is in. -/
theorem Underway.account_of_failure (underway : Underway host id turns record) {last : Turn}
    {cause : Fault} (due : State.of last.call = record.state)
    (planned : Planned host id desired (turns ++ [last]) (record.fail cause.message))
    (book : Book id (turns ++ [last]) (record.fail cause.message))
    (caused : Cause host id desired (turns ++ [last]) cause)
    (broken : ¬((turns ++ [last]).length = 5 ∧ last.succeeds = true)) :
    Account host id desired (turns ++ [last]) (record.fail cause.message)
      (.error (failure record cause)) where
  subject := underway.subject
  planned := planned
  answered := by
    rw [List.dropLast_concat]
    exact underway.succeeded
  book := book
  returned := by
    constructor
    · intro wrong
      cases wrong
    · rintro ⟨whole, all⟩
      have succeeds := all last (List.mem_append_right _ List.mem_cons_self)
      exact absurd ⟨whole, succeeds⟩ broken
  done := by
    intro wrong
    cases wrong
  failed := by
    intro _
    refine ⟨last, cause, List.getLast?_concat, caused, ?_, rfl, ?_, rfl⟩
    · rw [due]
      rfl
    · rw [due]
      rfl

/-- The account of a run whose last call was refused. -/
theorem Underway.account_of_refusal (underway : Underway host id turns record) {call : Call}
    {error : PeerError} (due : State.of call = record.state)
    (planned : Planned host id desired (turns ++ [⟨call, .error error⟩])
      (record.fail error.message)) :
    Account host id desired (turns ++ [⟨call, .error error⟩]) (record.fail error.message)
      (.error (failure record (.peer error))) := by
  refine underway.account_of_failure due planned (underway.book.refused due _)
    (.refused turns call error) ?_
  rintro ⟨_, wrong⟩
  cases wrong

/-- What is worked out from the description leaves the course of the record as it is. -/
theorem prepare_keeps (record : Record) (description : Json) (desired : Env) :
    ∃ env name, (prepare record description desired).1 =
      { record with env := env, containerName := name } := by
  rw [prepare]
  split
  · exact ⟨record.env, record.containerName, rfl⟩
  · dsimp only
    split
    · exact ⟨_, record.containerName, rfl⟩
    · exact ⟨_, _, rfl⟩

theorem planned_of_prepared {description config newId : Json} {name : Option String}
    (prepared : (prepare (.start host.name id) description desired).2 = .ok config)
    {later : List Turn}
    (inPlan : later.map Turn.call <+: [.stop id, .remove id, .create config name, .start newId])
    (started : 4 < later.length + 1 → record.newContainerId = some newId) :
    Planned host id desired (⟨.inspectContainer id, .ok description⟩ :: later) record :=
  ⟨config, name, newId, (List.prefix_cons_inj _).mpr inPlan,
    fun _ => ⟨description, rfl, prepared⟩, started⟩

/-- The account of a run that comes to its first change. -/
theorem account_of_replacing {description config : Json} {outcome : Except Fault Record}
    {later : List Turn}
    (prepared : (prepare (.start host.name id) description desired).2 = .ok config)
    (underway : Underway host id [⟨.inspectContainer id, .ok description⟩]
      (record.enter .stopping))
    (fresh : record.newContainerId = none)
    (runs : (replacing id record config).Runs later outcome)
    (named : ∀ config name document, (⟨.create config name, .ok document⟩ : Turn) ∈ later →
      ∃ newId, document.demand "Id" = .ok (.text newId)) :
    ∃ record, Account host id desired (⟨.inspectContainer id, .ok description⟩ :: later) record
      outcome := by
  rw [replacing] at runs
  -- Before the last step it does not matter which container will be started.
  have unstarted : ∀ (later : List Turn) (failed : Record),
      later.map Turn.call <+: [.stop id, .remove id, .create config (newName record)] →
      Planned host id desired (⟨.inspectContainer id, .ok description⟩ :: later) failed := by
    intro later failed inPlan
    have few := inPlan.length_le
    rw [List.length_map] at few
    exact planned_of_prepared prepared (inPlan.trans ⟨[.start .null], rfl⟩)
      fun many => absurd few (Nat.not_le.mpr (Nat.lt_of_succ_lt_succ many))
  rcases runs_step runs with ⟨error, rfl, rfl⟩ | ⟨answer, later, rfl, afterStop⟩
  · exact ⟨_, underway.account_of_refusal rfl (unstarted _ _ ⟨_, rfl⟩)⟩
  have stopped := underway.answered (.stop id) answer .removing rfl nofun
    (iff_of_false nofun nofun)
  rcases runs_step afterStop with ⟨error, rfl, rfl⟩ | ⟨answer, later, rfl, afterRemoval⟩
  · exact ⟨_, stopped.account_of_refusal rfl (unstarted _ _ ⟨_, rfl⟩)⟩
  have removed := stopped.answered (.remove id) answer .creating rfl nofun (iff_of_true rfl rfl)
  rcases runs_step afterRemoval with ⟨error, rfl, rfl⟩ | ⟨document, later, rfl, afterCreation⟩
  · exact ⟨_, removed.account_of_refusal rfl (unstarted _ _ ⟨_, rfl⟩)⟩
  rcases named config _ document (by simp) with ⟨newId, found⟩
  have created := removed.created config (newName record) rfl fresh found
  rw [found] at afterCreation
  rcases runs_step afterCreation with ⟨error, rfl, rfl⟩ | ⟨answer, later, rfl, afterStart⟩
  · exact ⟨_, created.account_of_refusal rfl
      (planned_of_prepared prepared ⟨_, rfl⟩ fun _ => rfl)⟩
  have started := created.answered (.start (.text newId)) answer .done rfl nofun
    (iff_of_false nofun nofun)
  cases afterStart
  exact ⟨_, started.account_of_end (planned_of_prepared prepared ⟨_, rfl⟩ fun _ => rfl) rfl rfl⟩

/-- Every run can be accounted for, in whatever step it ends. -/
theorem account_of_runs {outcome : Except Fault Record}
    (runs : (course host id desired).Runs turns outcome)
    (named : ∀ config name document, (⟨.create config name, .ok document⟩ : Turn) ∈ turns →
      ∃ newId, document.demand "Id" = .ok (.text newId)) :
    ∃ record, Account host id desired turns record outcome := by
  have start : Underway host id [] (.start host.name id) :=
    ⟨⟨rfl, rfl⟩, ⟨rfl, rfl⟩, List.forall_mem_nil _, book_start host.name id⟩
  rw [course] at runs
  rcases runs_step runs with ⟨error, rfl, rfl⟩ | ⟨description, later, rfl, inspected⟩
  · have planned : Planned host id desired [⟨.inspectContainer id, .error error⟩]
        ((Record.start host.name id).fail error.message) :=
      ⟨.null, none, .null, ⟨_, rfl⟩, by simp, by simp⟩
    exact ⟨_, start.account_of_refusal rfl planned⟩
  rcases prepare_keeps (.start host.name id) description desired with ⟨env, name, kept⟩
  rcases prepared : prepare (.start host.name id) description desired with ⟨record, settings⟩
  rw [prepared] at kept inspected
  cases kept
  have noted : Underway host id []
      { Record.start host.name id with env := env, containerName := name } :=
    ⟨start.subject, start.unfailed, start.succeeded, rfl, start.book.created, start.book.removed⟩
  cases settings with
  | error error =>
    cases inspected
    have unusable : (prepare (.start host.name id) description desired).2 = .error error :=
      congrArg Prod.snd prepared
    have book := noted.book.answered (.inspectContainer id) description .failed rfl nofun
      (iff_of_false nofun nofun)
    refine ⟨_, noted.account_of_failure rfl ?_ ?_ (.unusable unusable) ?_⟩
    · exact ⟨.null, none, .null, ⟨_, rfl⟩, by simp, by simp⟩
    · exact ⟨book.history, book.created, book.removed⟩
    · simp
  | ok config =>
    have due := noted.answered (.inspectContainer id) description .stopping rfl nofun
      (iff_of_false nofun nofun)
    exact account_of_replacing (congrArg Prod.snd prepared) due rfl inspected
      fun config name document member => named config name document (List.mem_cons_of_mem _ member)

/-- Whatever the daemon does, a reconciliation follows its steps, and its record tells how
far it came: it is returned just if all five calls were answered, and otherwise it is what
the failure carries. -/
theorem run_accounted (peers : Peers σ) {fleet : Fleet} {host : Host} (member : host ∈ fleet.hosts)
    (id : String) (desired : Env) (before : Exchange σ)
    (named : ∀ config name state document,
      (peers.answer host.uri (.create config name) state).1 = .ok document →
      ∃ newId, document.demand "Id" = .ok (.text newId)) :
    ∃ turns record outcome after,
      attempt (fleet.onHost host.name (run peers · id desired)) before = .ok outcome after ∧
      peers.Gives host.uri before turns after ∧
      Account host id desired turns record outcome := by
  rcases Dialogue.gives_of_hold peers host.uri (course host id desired) before with
    ⟨turns, outcome, after, held, runs, gives⟩
  rw [hold_course] at held
  have answered : ∀ config name document, (⟨.create config name, .ok document⟩ : Turn) ∈ turns →
      ∃ newId, document.demand "Id" = .ok (.text newId) := by
    intro config name document created
    rcases gives.answered created with ⟨state, said⟩
    exact named config name state document said.symm
  rcases account_of_runs runs answered with ⟨record, account⟩
  refine ⟨turns, record, outcome, after, ?_, gives, account⟩
  rw [Fleet.onHost, Fleet.host, Fleet.find?_of_mem member]
  exact held

/-- A daemon that removes a container and then refuses to create one. -/
def refusingCreation : Peers Unit where
  answer _ call _ :=
    match call with
    | .inspectContainer _ => (.ok (.object []), ())
    | .stop _ | .remove _ => (.ok (), ())
    | _ => (.error ⟨.notFound, "no such image"⟩, ())
  deliver _ _ := (.undelivered, ())

/-- A fleet of one host. -/
def oneHost : Fleet := ⟨[⟨"a", "unix:///a"⟩], List.pairwise_singleton _ _⟩

/-- When the new container cannot be created, the record tells that the first one is gone. -/
theorem run_accounted_after_removal : ∃ turns record outcome after,
    attempt (oneHost.onHost "a" (run refusingCreation · "web" [])) (.start ()) =
      .ok outcome after ∧
    Account ⟨"a", "unix:///a"⟩ "web" [] turns record outcome ∧
    record.originalRemoved = true ∧ record.newContainerId = none ∧
    record.failedStep = some .creating ∧ record.error = some "no such image" := by
  have member : ⟨"a", "unix:///a"⟩ ∈ oneHost.hosts := List.mem_cons_self
  rcases run_accounted refusingCreation member "web" [] (.start ())
    (fun _ _ _ _ wrong => nomatch wrong) with
    ⟨turns, record, outcome, after, ran, -, account⟩
  obtain ⟨told, last, ended, removed, unset, step, reason⟩ : ∃ told last,
      attempt (oneHost.onHost "a" (run refusingCreation · "web" [])) (.start ()) =
        .ok (.error (.reconcile .creating "no such image" told)) last ∧
      told.originalRemoved = true ∧ told.newContainerId = none ∧
      told.failedStep = some .creating ∧ told.error = some "no such image" :=
    ⟨_, _, rfl, rfl, rfl, rfl, rfl⟩
  cases ended.symm.trans ran
  rcases account.failed nofun with ⟨_, _, -, -, same, -⟩
  rcases Fault.reconcile.inj (Except.error.inj same) with ⟨-, -, rfl⟩
  exact ⟨turns, told, _, after, ended, account, removed, unset, step, reason⟩

end Reconcile
end ContainerFleet
