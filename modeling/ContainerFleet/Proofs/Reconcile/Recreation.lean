import ContainerFleet.Proofs.Reconcile.Course
import ContainerFleet.Proofs.Reconcile.Environment

/-!
# What a container is created anew from

The request that creates the new container reproduces the description of the first one:
its settings but for the environment, its host settings, its networks and its name.  The
environment is the desired one, written out as in `Env.toEntries`.

A description may leave out any part, and then the request has an empty one in its place.
`Described` says which kinds of parts a description has to have; of such a description all
that is needed can be worked out, so the run comes to its first change.
-/

namespace ContainerFleet

/-- The member of an object under a key, or a default in place of an empty or absent one. -/
def Json.memberOr (document : Json) (key : String) (default : Json) : Json :=
  ((document.member? key).getD .null).orElse default

namespace Reconcile

open Daemon

variable {σ : Type}

/-- A description whose parts, as far as they are there, are of the expected kinds. -/
structure Described (description : Json) : Prop where
  whole : ∃ members, description = .object members
  config : ∃ members, description.memberOr "Config" (.object []) = .object members
  env : ∃ entries,
    (description.memberOr "Config" (.object [])).memberOr "Env" (.array []) = .ofTexts entries
  name : ∃ name, description.memberOr "Name" (.text "") = .text name
  networks : ∃ members, description.memberOr "NetworkSettings" (.object []) = .object members

/-- The members of a request that do not come from the settings of a container. -/
def replaced : List String := ["Env", "HostConfig", "NetworkingConfig"]

/-- A request creates a described container anew, in the desired environment. -/
structure Recreates (description : Json) (desired : Env) (request : Json) (name : Option String) :
    Prop where
  kept : ∃ members settings, request = .object members ∧
    description.memberOr "Config" (.object []) = .object settings ∧
    Table.within members (· ∉ replaced) = Table.within settings (· ∉ replaced)
  env : request.member? "Env" = some (.ofTexts (Env.toEntries desired))
  hostConfig : request.member? "HostConfig" = some (description.memberOr "HostConfig" (.object []))
  networks : request.member? "NetworkingConfig" = some (.object [("EndpointsConfig",
    (description.memberOr "NetworkSettings" (.object [])).memberOr "Networks" (.object []))])
  name : ∃ inspected, description.memberOr "Name" (.text "") = .text inspected ∧
    name = if (withoutSlashes inspected).isEmpty then none else some (withoutSlashes inspected)

/-! ## Working out the request -/

theorem member?_object (members : Table String Json) (key : String) :
    (Json.object members).member? key = members.get? key := by
  induction members with
  | nil => rfl
  | cons entry later inductionHypothesis =>
    rcases entry with ⟨present, value⟩
    change List.lookup key ((present, value) :: later) = _
    rw [List.lookup_cons, Table.get?]
    by_cases same : present = key
    · simp [same]
    · rw [if_neg same, beq_false_of_ne (Ne.symm same)]
      exact inductionHypothesis

theorem ofDocument_ofTexts (entries : List String) :
    Env.ofDocument (.ofTexts entries) = .ok (Env.ofEntries entries) := by
  have texts : (entries.map Json.text).mapM (Json.textFor "partition") = .ok entries := by
    induction entries with
    | nil => rfl
    | cons entry later inductionHypothesis =>
      rw [List.map_cons, List.mapM_cons, inductionHypothesis]
      rfl
  change ((entries.map Json.text).mapM (Json.textFor "partition") >>= fun texts =>
    pure (Env.ofEntries texts)) = _
  rw [texts]
  rfl

/-- The members that the request for a described container has. -/
def requestMembers (description : Json) (settings : Table String Json) (entries : List String) :
    Table String Json :=
  ((settings.set "Env" (.ofTexts entries)).set "HostConfig"
    (description.memberOr "HostConfig" (.object []))).set "NetworkingConfig"
    (.object [("EndpointsConfig",
      (description.memberOr "NetworkSettings" (.object [])).memberOr "Networks" (.object []))])

theorem createConfig_of_described {description : Json} (described : Described description)
    {settings : Table String Json}
    (config : description.memberOr "Config" (.object []) = .object settings)
    (entries : List String) :
    createConfig description (.ofTexts entries) =
      .ok (.object (requestMembers description settings entries)) := by
  rcases described.whole with ⟨members, rfl⟩
  rcases described.networks with ⟨networks, given⟩
  change (((Json.object members).memberOr "Config" (.object [])).toMembers >>= fun settings =>
    ((Json.object members).memberOr "NetworkSettings" (.object [])).get "Networks" >>= fun found =>
      Except.ok (Json.object (Table.set (Table.set (Table.set settings "Env" (.ofTexts entries))
        "HostConfig" ((Json.object members).memberOr "HostConfig" (.object [])))
        "NetworkingConfig" (.object [("EndpointsConfig", found.orElse (.object []))])))) = _
  rw [config, requestMembers, given]
  rfl

theorem describedEnv_of_described {description : Json} (described : Described description) :
    ∃ entries, describedEnv description = .ok (Env.ofEntries entries) := by
  rcases described.whole with ⟨members, rfl⟩
  rcases described.config with ⟨settings, config⟩
  rcases described.env with ⟨entries, env⟩
  refine ⟨entries, ?_⟩
  rw [config] at env
  change (((Json.object members).memberOr "Config" (.object [])).get "Env" >>= fun listed =>
    Env.ofDocument (listed.orElse (.array []))) = _
  rw [config]
  change Env.ofDocument ((Json.object settings).memberOr "Env" (.array [])) = _
  rw [env]
  exact ofDocument_ofTexts entries

/-- Of a described container all that is needed can be worked out. -/
theorem prepare_of_described (record : Record) {description : Json}
    (described : Described description) {desired : Env} (distinct : desired.keys.Nodup) :
    ∃ settings name, description.memberOr "Config" (.object []) = .object settings ∧
      description.memberOr "Name" (.text "") = .text name ∧
      prepare record description desired =
        ({ record with env := Env.toEntries desired, containerName := withoutSlashes name },
          .ok (.object (requestMembers description settings (Env.toEntries desired)))) := by
  rcases described.config with ⟨settings, config⟩
  rcases described.name with ⟨name, named⟩
  rcases describedEnv_of_described described with ⟨entries, current⟩
  have written : Env.toEntries (Env.merge (Env.ofEntries entries) desired) = Env.toEntries desired :=
    Env.toEntries_merge (Table.nodup_ofEntries _) distinct
  have read : ((description.get "Name").bind fun name =>
      (name.orElse (.text "")).textFor "lstrip") = .ok name := by
    rcases described.whole with ⟨members, rfl⟩
    change ((Json.object members).memberOr "Name" (.text "")).textFor "lstrip" = _
    rw [named]
    rfl
  refine ⟨settings, name, config, named, ?_⟩
  rw [prepare, current]
  dsimp only
  rw [read, written]
  dsimp only
  rw [createConfig_of_described described config]

/-- What is worked out from a description recreates the container. -/
theorem recreates_requestMembers (description : Json) (desired : Env)
    {settings : Table String Json} {inspected : String}
    (config : description.memberOr "Config" (.object []) = .object settings)
    (named : description.memberOr "Name" (.text "") = .text inspected) :
    Recreates description desired
      (.object (requestMembers description settings (Env.toEntries desired)))
      (if (withoutSlashes inspected).isEmpty then none else some (withoutSlashes inspected)) where
  kept := by
    refine ⟨_, settings, rfl, config, ?_⟩
    rw [requestMembers, Table.set_within_of_fails _ _ (by decide),
      Table.set_within_of_fails _ _ (by decide), Table.set_within_of_fails _ _ (by decide)]
  env := by
    simp [member?_object, requestMembers, Table.get?_set]
  hostConfig := by
    simp [member?_object, requestMembers, Table.get?_set]
  networks := by
    simp [member?_object, requestMembers, Table.get?_set]
  name := ⟨inspected, named, rfl⟩

/-! ## The request that is made -/

theorem only_step {allowed : Call → Prop} {record : Record} {call : Call}
    {next : call.Answer → Dialogue Record} (due : allowed call)
    (only : ∀ value, (next value).Only allowed) : (step record call next).Only allowed := by
  refine ⟨due, fun answer => ?_⟩
  cases answer with
  | ok value => exact only value
  | error error => trivial

theorem only_worked {allowed : Call → Prop} {α : Type} {record : Record}
    {outcome : Except ShapeError α} {next : α → Dialogue Record}
    (only : ∀ value, (next value).Only allowed) : (worked record outcome next).Only allowed := by
  cases outcome with
  | ok value => exact only value
  | error error => trivial

/-- A container is created with nothing else than the settings and the name worked out. -/
def AsPrepared (record : Record) (config : Json) : Call → Prop
  | .create request name => request = config ∧ name = newName record
  | _ => True

theorem only_replacing (id : String) (record : Record) (config : Json) :
    (replacing id record config).Only (AsPrepared record config) :=
  only_step trivial fun _ => only_step trivial fun _ => only_step ⟨rfl, rfl⟩ fun _ =>
    only_worked fun _ => only_step trivial fun _ => trivial

/-- What is done after the inspection: nothing, or what was worked out is carried out. -/
theorem runs_course {host : Host} {id : String} {desired : Env} {turns : List Turn}
    {outcome : Except Fault Record} (runs : (course host id desired).Runs turns outcome) :
    (∃ answer, turns = [⟨.inspectContainer id, answer⟩] ∧ ∀ description, answer = .ok description →
      ∃ record error, prepare (.start host.name id) description desired = (record, .error error)) ∨
    ∃ description record config later, turns = ⟨.inspectContainer id, .ok description⟩ :: later ∧
      prepare (.start host.name id) description desired = (record, .ok config) ∧
      (replacing id record config).Runs later outcome := by
  rw [course] at runs
  rcases runs_step runs with ⟨error, rfl, -⟩ | ⟨description, later, rfl, inspected⟩
  · refine .inl ⟨.error error, rfl, ?_⟩
    intro description same
    cases same
  rcases prepared : prepare (.start host.name id) description desired with ⟨record, error | config⟩
  · rw [prepared] at inspected
    cases inspected
    refine .inl ⟨.ok description, rfl, ?_⟩
    intro other same
    cases same
    exact ⟨record, error, prepared⟩
  · rw [prepared] at inspected
    exact .inr ⟨description, record, config, later, rfl, prepared, inspected⟩

/-- Whenever a container is created, it is created anew from what the daemon described, in
the desired environment; and a description with parts of the expected kinds never keeps
the run from its first change.  How the environment is written depends on nothing else. -/
theorem recreated_as_described (peers : Peers σ) {fleet : Fleet} {host : Host}
    (member : host ∈ fleet.hosts) (id : String) {desired : Env} (distinct : desired.keys.Nodup)
    (before : Exchange σ) :
    Env.Spells (Env.toEntries desired) desired ∧
    ∃ turns outcome after,
      attempt (fleet.onHost host.name (run peers · id desired)) before = .ok outcome after ∧
      peers.Gives host.uri before turns after ∧
      (∀ request name, .create request name ∈ turns.map Turn.call →
        ∃ description, turns.head? = some ⟨.inspectContainer id, .ok description⟩ ∧
          (Described description → Recreates description desired request name)) ∧
      ∀ description, turns.head? = some ⟨.inspectContainer id, .ok description⟩ →
        Described description → ∃ answer, turns[1]? = some ⟨.stop id, answer⟩ := by
  refine ⟨Env.spells_toEntries distinct, ?_⟩
  rcases Dialogue.gives_of_hold peers host.uri (course host id desired) before with
    ⟨turns, outcome, after, held, runs, gives⟩
  rw [hold_course] at held
  refine ⟨turns, outcome, after, ?_, gives, ?_⟩
  · rw [Fleet.onHost, Fleet.host, Fleet.find?_of_mem member]
    exact held
  rcases runs_course runs with
    ⟨answer, rfl, unusable⟩ | ⟨description, record, config, later, rfl, prepared, replaces⟩
  · refine ⟨fun request name created => ?_, fun description first described => ?_⟩
    · cases List.mem_singleton.mp created
    · cases first
      rcases prepare_of_described (.start host.name id) described distinct with
        ⟨settings, name, -, -, prepared⟩
      rcases unusable description rfl with ⟨record, error, failed⟩
      cases prepared.symm.trans failed
  · refine ⟨fun request name created => ⟨description, rfl, fun described => ?_⟩,
      fun _ _ _ => ?_⟩
    · rcases prepare_of_described (.start host.name id) described distinct with
        ⟨settings, inspected, found, named, worked⟩
      cases prepared.symm.trans worked
      rcases List.mem_map.mp created with ⟨turn, among, same⟩
      rcases List.mem_cons.mp among with rfl | inLater
      · cases same
      have allowed := replaces.only (only_replacing id _ _) turn inLater
      rw [same] at allowed
      rcases allowed with ⟨rfl, rfl⟩
      exact recreates_requestMembers description desired found named
    · rcases runs_step replaces with ⟨error, rfl, -⟩ | ⟨value, rest, rfl, -⟩
      · exact ⟨_, rfl⟩
      · exact ⟨_, rfl⟩

/-- A description of a container with an environment, labels and a network. -/
def labelledWeb : Json := .object
  [("Name", .text "/web"),
    ("Config", .object [("Env", .ofTexts ["STALE=1", "LEVEL"]), ("Labels", .object [("tier", .text "a")])]),
    ("NetworkSettings", .object [("Networks", .object [("front", .object [])])])]

/-- A daemon that describes this container and does what it is asked for. -/
def labelledDaemon : Peers Unit where
  answer _ call _ :=
    match call with
    | .inspectContainer _ => (.ok labelledWeb, ())
    | .create _ _ => (.ok (.object [("Id", .text "n1")]), ())
    | .stop _ | .remove _ | .start _ => (.ok (), ())
    | _ => (.error ⟨.notFound, "no such command"⟩, ())
  deliver _ _ := (.undelivered, ())

theorem described_labelledWeb : Described labelledWeb where
  whole := ⟨_, rfl⟩
  config := ⟨_, rfl⟩
  env := ⟨["STALE=1", "LEVEL"], rfl⟩
  name := ⟨"/web", rfl⟩
  networks := ⟨_, rfl⟩

/-- The new container has the name, the label and the network of the first one. -/
theorem labelledWeb_recreated : ⟨"a", "unix:///a"⟩ ∈ oneHost.hosts ∧
    (Table.keys [("LEVEL", "a=b"), ("MODE", "x")]).Nodup ∧ ∃ outcome after request,
      attempt (oneHost.onHost "a" (run labelledDaemon · "web" [("LEVEL", "a=b"), ("MODE", "x")]))
        (.start ()) = .ok outcome after ∧
      ("unix:///a", .create request (some "web")) ∈ after.calls ∧
      Recreates labelledWeb [("LEVEL", "a=b"), ("MODE", "x")] request (some "web") := by
  have member : ⟨"a", "unix:///a"⟩ ∈ oneHost.hosts := List.mem_cons_self
  have distinct : (Table.keys [("LEVEL", "a=b"), ("MODE", "x")]).Nodup := by decide
  rcases recreated_as_described labelledDaemon member "web" distinct (.start ()) with
    ⟨-, turns, outcome, after, ran, gives, created, -⟩
  obtain ⟨other, last, request, name, ended, calls⟩ : ∃ other last request name,
      attempt (oneHost.onHost "a" (run labelledDaemon · "web" [("LEVEL", "a=b"), ("MODE", "x")]))
        (.start ()) = .ok other last ∧
      last.calls = ("unix:///a", .start (.text "n1")) :: ("unix:///a", .create request name) ::
        [("unix:///a", .remove "web"), ("unix:///a", .stop "web"),
          ("unix:///a", .inspectContainer "web")] :=
    ⟨_, _, _, _, rfl, rfl⟩
  cases ended.symm.trans ran
  have inCalls : ("unix:///a", .create request name) ∈ after.calls := by
    rw [calls]
    exact List.mem_cons_of_mem _ List.mem_cons_self
  have among : .create request name ∈ turns.map Turn.call := by
    rw [Dialogue.calls_of_gives gives, Dialogue.requests] at inCalls
    rcases List.mem_append.mp inCalls with made | earlier
    · simpa using made
    · cases earlier
  rcases created request name among with ⟨description, first, recreates⟩
  rcases gives.answered (List.mem_of_head? first) with ⟨state, described⟩
  cases described
  have recreated := recreates described_labelledWeb
  rcases recreated.name with ⟨inspected, named, rfl⟩
  cases named
  exact ⟨member, distinct, outcome, after, request, ran, inCalls, recreated⟩

end Reconcile
end ContainerFleet
