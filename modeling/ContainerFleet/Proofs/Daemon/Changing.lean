import ContainerFleet.Fleet

/-!
# Which requests change something

An operation may be counted by the requests it made that change something at a daemon,
whether it succeeds or fails and whatever the daemons answer.  Most operations make none.
The count of a chain of operations follows from those of its links, because a link that
fails leaves out only what would have come after it; so only the single requests have to
be looked at, and everything built from requests that only read is harmless.
-/

namespace ContainerFleet
namespace Daemon

variable {σ α β ε : Type}

/-- The exchange after an operation, whether it succeeded or failed. -/
def left : EStateM.Result Fault (Exchange σ) α → Exchange σ
  | .ok _ after => after
  | .error _ after => after

/-- The requests made so far that change something, latest first. -/
def Exchange.changing (exchange : Exchange σ) : List (String × Call) :=
  exchange.calls.filter fun request => request.2.changes

/-- Of the requests that the operation makes, exactly these change something. -/
def Alters (made : List (String × Call)) (action : Action σ α) : Prop :=
  ∀ before, (left (action before)).changing = made ++ before.changing

/-- None of the requests that the operation makes changes anything. -/
abbrev Harmless (action : Action σ α) : Prop :=
  Alters [] action

theorem harmless_pure (value : α) : Harmless (pure value : Action σ α) :=
  fun _ => rfl

theorem harmless_throw (fault : Fault) : Harmless (throw fault : Action σ α) :=
  fun _ => rfl

theorem harmless_ofExcept (cause : ε → Fault) (outcome : Except ε α) :
    Harmless (ofExcept cause outcome : Action σ α) := by
  cases outcome with
  | ok value => exact harmless_pure value
  | error error => exact harmless_throw (cause error)

/-- What the rest of a chain leaves alone is as its first link left it, whether or not the
rest was come to. -/
theorem left_bind {γ : Type} (observe : Exchange σ → γ) {first : Action σ α}
    {next : α → Action σ β}
    (keeps : ∀ value before, observe (left (next value before)) = observe before)
    (before : Exchange σ) :
    observe (left ((first >>= next) before)) = observe (left (first before)) := by
  change observe (left (EStateM.bind first next before)) = _
  rw [EStateM.bind]
  cases first before with
  | error fault middle => rfl
  | ok value middle => exact keeps value middle

theorem left_attempt (action : Action σ α) (before : Exchange σ) :
    left (attempt action before) = left (action before) := by
  rw [attempt]
  cases action before <;> rfl

/-- Where all that changes something is done first, what follows may succeed or fail. -/
theorem Alters.bind {made : List (String × Call)} {first : Action σ α}
    {next : α → Action σ β} (alters : Alters made first)
    (harmless : ∀ value, Harmless (next value)) : Alters made (first >>= next) :=
  fun before => (left_bind Exchange.changing harmless before).trans (alters before)

theorem Alters.attempt {made : List (String × Call)} {action : Action σ α}
    (alters : Alters made action) : Alters made (attempt action) := by
  intro before
  rw [left_attempt]
  exact alters before

theorem Alters.ignoring {made : List (String × Call)} {action : Action σ Unit}
    (alters : Alters made action) : Alters made (ignoring action) :=
  alters.attempt.bind fun _ => harmless_pure ()

theorem Alters.closing {made : List (String × Call)} {action : Action σ α}
    {last : Action σ Unit} (alters : Alters made action) (harmless : Harmless last) :
    Alters made (closing action last) :=
  alters.attempt.bind fun outcome => harmless.bind fun _ => harmless_ofExcept id outcome

/-! ## Single requests -/

variable (peers : Peers σ)

theorem calls_of_request (uri : String) (call : Call) (before : Exchange σ) :
    (left (peers.request uri call before)).calls = (uri, call) :: before.calls := by
  rw [Peers.request]
  rcases peers.answer uri call before.peers with ⟨answer | error, state⟩ <;> rfl

theorem posts_of_request (uri : String) (call : Call) (before : Exchange σ) :
    (left (peers.request uri call before)).posts = before.posts := by
  rw [Peers.request]
  rcases peers.answer uri call before.peers with ⟨answer | error, state⟩ <;> rfl

theorem alters_request {uri : String} {call : Call} (changes : call.changes = true) :
    Alters [(uri, call)] (peers.request uri call) := by
  intro before
  rw [Exchange.changing, calls_of_request]
  exact List.filter_cons_of_pos changes

theorem harmless_request {uri : String} {call : Call} (keeps : call.changes = false) :
    Harmless (peers.request uri call) := by
  intro before
  rw [Exchange.changing, calls_of_request]
  exact List.filter_cons_of_neg (by simp [keeps])

/-- A message to a receiver is not a request to a daemon. -/
theorem harmless_send (post : Post) : Harmless (peers.send post) :=
  fun _ => rfl

/-! ## Several operations -/

theorem harmless_forM {operation : α → Action σ PUnit} (items : List α)
    (harmless : ∀ item, Harmless (operation item)) : Harmless (items.forM operation) := by
  induction items with
  | nil => exact harmless_pure _
  | cons item later inductionHypothesis => exact (harmless item).bind fun _ => inductionHypothesis

theorem harmless_onHost {fleet : Fleet} {name : String} {operation : Host → Action σ α}
    (harmless : ∀ host, Harmless (operation host)) : Harmless (fleet.onHost name operation) :=
  (harmless_ofExcept id (fleet.host name)).bind harmless

theorem harmless_gather {fleet : Fleet} {operation : Host → Action σ α}
    (harmless : ∀ host, Harmless (operation host)) : Harmless (fleet.gather operation) := by
  unfold Fleet.gather
  generalize fleet.hosts = hosts
  induction hosts with
  | nil => exact harmless_pure _
  | cons host later inductionHypothesis =>
    exact (harmless host).attempt.bind fun outcome =>
      inductionHypothesis.bind fun rest => harmless_pure _

/-! ## Operations on one host -/

variable (host : Host)

theorem harmless_inspectContainer (id : String) : Harmless (inspectContainer peers host id) :=
  harmless_request peers rfl

theorem harmless_listImages : Harmless (listImages peers host) :=
  (harmless_request peers rfl).bind fun _ => harmless_ofExcept id _

theorem harmless_listNetworks : Harmless (listNetworks peers host) :=
  (harmless_request peers rfl).bind fun _ => harmless_ofExcept id _

theorem harmless_inspectNetwork (id : String) : Harmless (inspectNetwork peers host id) :=
  (harmless_request peers rfl).bind fun _ => harmless_ofExcept _ _

theorem harmless_openStats (id : String) : Harmless (openStats peers host id) :=
  (harmless_request peers rfl).bind fun documents =>
    (harmless_request peers rfl).bind fun _ => harmless_pure documents

theorem harmless_openLogs (id : String) (options : Log.Options) (follow : Bool) :
    Harmless (openLogs peers host id options follow) := by
  refine (harmless_request peers rfl).bind fun source => ?_
  cases follow with
  | false => exact harmless_pure source
  | true => exact (harmless_request peers rfl).bind fun _ => harmless_pure source

/-- Preparing a command is the one request that changes something, whatever becomes of
its answer. -/
theorem alters_createExec (id : String) (command : List String) :
    Alters [(host.uri, .createExec id command)] (createExec peers host id command) :=
  (alters_request peers rfl).bind fun _ => harmless_ofExcept _ _

theorem harmless_attachExec (execId : String) : Harmless (attachExec peers host execId) :=
  (harmless_request peers rfl).bind fun _ => harmless_request peers rfl

theorem harmless_closeExec : Harmless (closeExec peers host) := by
  refine (harmless_request peers rfl).attempt.bind fun outcome => ?_
  have closes : Harmless (peers.request host.uri .closeSocket) := harmless_request peers rfl
  cases outcome with
  | ok value => exact closes
  | error fault =>
    cases fault
    case peer error =>
      dsimp only
      split
      · exact closes
      · exact (harmless_throw _).bind fun _ => closes
    all_goals exact (harmless_throw _).bind fun _ => closes

end Daemon
end ContainerFleet
