import ContainerFleet.Plane
import ContainerFleet.Proofs.Outcome
import ContainerFleet.Proofs.Plane.Harmless

/-!
# Read-only planes

Where the settings are read-only, the operations with words of refusal fail before any
daemon is called.  The other operations make no request that changes something, with one
exception: opening a terminal on a host of the fleet prepares a shell in the container,
and nothing refuses that.  So over a whole run of operations and scans the requests that
change something are the shells of the terminals that were opened, one each and in order,
and without a terminal there are none.

`alters_act` counts the requests of every operation that has no words of refusal, and
`alters_perform` those of all operations on a read-only plane.  The run follows by
induction, since nothing exchanges the settings or the fleet of a plane.
-/

namespace ContainerFleet

open Daemon

/-- The shells that an operation prepares, as requests. -/
def Operation.shells (fleet : Fleet) : Operation → List (String × Call)
  | .openTerminal host id _ _ => Terminal.Session.shellRequest fleet host id
  | _ => []

namespace Plane

variable {σ : Type} (peers : Peers σ)

theorem harmless_readEnv (host : Host) (id : String) : Harmless (readEnv peers host id) :=
  (harmless_inspectContainer peers host id).bind fun _ => harmless_ofExcept _ _

theorem harmless_start (plane : Plane) (now : Int) : Harmless (plane.start peers now) := by
  unfold start
  cases plane.monitor with
  | none => exact harmless_pure plane
  | some monitor =>
    exact (monitor.harmless_watch peers plane.fleet now).bind fun _ => harmless_pure _

theorem harmless_stop (plane : Plane) : Harmless (plane.stop peers) :=
  (harmless_forM plane.fleet.hosts fun _ => (harmless_request peers rfl).ignoring).bind
    fun _ => harmless_pure _

/-- Following the fetching of an image for a reader who wants nothing is no request. -/
theorem harmless_idlePull (fleet : Fleet) (host image : String) :
    Harmless (PullProgress.follow peers fleet host image (some 0)) :=
  fun _ => rfl

/-- An operation that is never refused changes nothing but for the shell of a terminal. -/
theorem alters_act (plane : Plane) (now : Int) {operation : Operation}
    (unguarded : operation.guardedName = none ∨ operation.isIdle = true) :
    Alters (operation.shells plane.fleet) (plane.act peers now operation) := by
  cases operation with
  | start => exact (plane.harmless_start peers now).bind fun _ => harmless_pure _
  | stop => exact (plane.harmless_stop peers).bind fun _ => harmless_pure _
  | listContainers =>
    exact (harmless_gather fun host => harmless_listContainers peers host true).bind
      fun _ => harmless_pure _
  | listImages => exact (harmless_gather (harmless_listImages peers)).bind fun _ => harmless_pure _
  | listNetworks =>
    exact (harmless_gather (harmless_listNetworks peers)).bind fun _ => harmless_pure _
  | networkDetails host id =>
    exact (harmless_onHost fun host => harmless_inspectNetwork peers host id).bind
      fun _ => harmless_pure _
  | readEnv host id =>
    exact (harmless_onHost fun host => harmless_readEnv peers host id).bind fun _ => harmless_pure _
  | pullImage host image limit =>
    rcases unguarded with words | idle
    · cases words
    · cases (beq_iff_eq.mp idle : limit = some 0)
      exact (harmless_idlePull peers plane.fleet host image).bind fun _ => harmless_pure _
  | fetchLogs host id options =>
    exact (Log.harmless_fetch peers plane.fleet host id options).bind fun _ => harmless_pure _
  | followLogs host id options limit =>
    exact (Log.harmless_follow peers plane.fleet host id options limit).bind
      fun _ => harmless_pure _
  | readStats host id =>
    exact (harmless_onHost fun host => Stats.harmless_readOnce peers host id).bind
      fun _ => harmless_pure _
  | followStats host id limit =>
    exact (Stats.harmless_follow peers plane.fleet host id limit).bind fun _ => harmless_pure _
  | sweepStats host =>
    exact (harmless_onHost (Stats.harmless_sweep peers)).bind fun _ => harmless_pure _
  | openTerminal host id textArrives events =>
    exact (Terminal.Session.alters_run peers plane.fleet host id textArrives events).bind
      fun _ => harmless_pure _
  | acknowledge id => exact (harmless_ofExcept _ _).bind fun _ => harmless_pure _
  | recentAlerts limit => exact harmless_pure _
  | pendingAlerts => exact harmless_pure _
  | acknowledgeAll => exact harmless_pure _
  | alertSettings => exact harmless_pure _
  | startContainer host id => simp [Operation.guardedName, Operation.isIdle] at unguarded
  | stopContainer host id => simp [Operation.guardedName, Operation.isIdle] at unguarded
  | restartContainer host id => simp [Operation.guardedName, Operation.isIdle] at unguarded
  | removeContainer host id => simp [Operation.guardedName, Operation.isIdle] at unguarded
  | reconcileEnv host id desired => simp [Operation.guardedName, Operation.isIdle] at unguarded
  | removeImage host id force => simp [Operation.guardedName, Operation.isIdle] at unguarded

/-! ## Refusals -/

section Refusals

variable {plane : Plane} (readOnly : plane.settings.readOnly = true)

include readOnly

/-- A read-only plane refuses what has words of refusal and would begin. -/
theorem permit_refuses {operation : Operation} {name : String}
    (words : operation.guardedName = some name) (begins : operation.isIdle = false) :
    plane.permit operation = .error (.readOnly name) := by
  rw [permit, readOnly, words]
  dsimp only
  rw [begins, if_neg Bool.false_ne_true]

theorem permit_passes {operation : Operation}
    (unguarded : operation.guardedName = none ∨ operation.isIdle = true) :
    plane.permit operation = .ok () := by
  rw [permit, readOnly]
  cases words : operation.guardedName with
  | none => rfl
  | some name =>
    rcases unguarded with wordless | idle
    · rw [words] at wordless
      cases wordless
    · exact if_pos idle

/-- A refusal comes before anything is said to anyone. -/
theorem perform_refused (now : Int) {operation : Operation} {name : String}
    (words : operation.guardedName = some name) (begins : operation.isIdle = false)
    (exchange : Exchange σ) :
    plane.perform peers now operation exchange = .error (.readOnly name) exchange := by
  rw [perform, permit_refuses readOnly words begins]
  rfl

theorem alters_perform (now : Int) (operation : Operation) :
    Alters (operation.shells plane.fleet) (plane.perform peers now operation) := by
  have permitted (unguarded : operation.guardedName = none ∨ operation.isIdle = true) :
      Alters (operation.shells plane.fleet) (plane.perform peers now operation) := by
    rw [perform, permit_passes readOnly unguarded]
    exact plane.alters_act peers now unguarded
  cases words : operation.guardedName with
  | none => exact permitted (.inl words)
  | some name =>
    cases begins : operation.isIdle with
    | true => exact permitted (.inr begins)
    | false =>
      intro before
      rw [perform_refused peers readOnly now words begins]
      -- What has words of refusal is not the opening of a terminal.
      cases operation <;> first | rfl | cases words

end Refusals

/-! ## What an operation leaves as it was -/

/-- Two states of a plane, which differ at most in the monitor. -/
def Alike (plane last : Plane) : Prop :=
  last.settings = plane.settings ∧ last.fleet = plane.fleet

theorem alike_of_acknowledge {plane last : Plane} {id : String}
    (acknowledged : plane.acknowledge id = .ok last) : plane.Alike last := by
  unfold acknowledge at acknowledged
  split at acknowledged
  · cases acknowledged
  · split at acknowledged
    · cases acknowledged
      exact ⟨rfl, rfl⟩
    · cases acknowledged

theorem alike_of_start {plane last : Plane} {now : Int} {before after : Exchange σ}
    (started : plane.start peers now before = .ok last after) : plane.Alike last := by
  rcases plane with ⟨settings, fleet, watcher⟩
  cases watcher with
  | none =>
    cases started
    exact ⟨rfl, rfl⟩
  | some monitor =>
    rcases ran_of_bind started with ⟨watching, middle, -, done⟩
    cases done
    exact ⟨rfl, rfl⟩

theorem alike_of_stop {plane last : Plane} {before after : Exchange σ}
    (stopped : plane.stop peers before = .ok last after) : plane.Alike last := by
  rcases ran_of_bind stopped with ⟨closed, middle, -, done⟩
  cases done
  exact ⟨rfl, rfl⟩

/-- No operation exchanges the settings or the fleet. -/
theorem alike_of_act {plane last : Plane} {now : Int} {operation : Operation}
    {answer : operation.Answer} {before after : Exchange σ}
    (acted : plane.act peers now operation before = .ok (answer, last) after) :
    plane.Alike last := by
  cases operation
  case start =>
    rcases ran_of_bind acted with ⟨next, middle, started, done⟩
    cases done
    exact alike_of_start peers started
  case stop =>
    rcases ran_of_bind acted with ⟨next, middle, stopped, done⟩
    cases done
    exact alike_of_stop peers stopped
  case acknowledge id =>
    rcases ran_of_bind acted with ⟨next, middle, found, done⟩
    cases done
    exact alike_of_acknowledge (ok_of_ofExcept found)
  case reconcileEnv host id desired =>
    rcases ran_of_bind acted with ⟨record, middle, -, done⟩
    cases done
    exact ⟨rfl, rfl⟩
  case recentAlerts | pendingAlerts | acknowledgeAll | alertSettings =>
    cases acted
    exact ⟨rfl, rfl⟩
  all_goals
    rcases ran_of_bind acted with ⟨value, middle, -, done⟩
    cases done
    exact ⟨rfl, rfl⟩

/-! ## A whole run -/

/-- What a plane meets: it is asked for an operation, or the next scan is due. -/
inductive Happening where
  | asked (operation : Operation)
  | due

/-- The shells that are prepared when something happens. -/
def Happening.shells (fleet : Fleet) : Happening → List (String × Call)
  | .asked operation => operation.shells fleet
  | .due => []

/-- At most one shell is prepared at a time. -/
theorem Happening.reverse_shells (fleet : Fleet) (happening : Happening) :
    (happening.shells fleet).reverse = happening.shells fleet := by
  rcases happening with operation | _
  · cases operation
    case openTerminal host id textArrives events =>
      rw [shells, Operation.shells, Terminal.Session.shellRequest]
      cases fleet.find? host <;> rfl
    all_goals rfl
  · rfl

/-- What a plane becomes when something happens; a failure is told to whoever asked and
leaves the plane as it was. -/
def meet (plane : Plane) (now : Int) : Happening → Action σ Plane
  | .asked operation => do
    match ← attempt (plane.perform peers now operation) with
    | .ok (_, next) => return next
    | .error _ => return plane
  | .due =>
    match plane.monitor with
    | none => return plane
    | some monitor => do
      match ← attempt (monitor.wake peers plane.fleet now) with
      | .ok monitor => return { plane with monitor := some monitor }
      | .error _ => return plane

/-- One thing after another happens, each at its time. -/
def meetAll (plane : Plane) : List (Int × Happening) → Action σ Plane
  | [] => return plane
  | (now, happening) :: later => do meetAll (← plane.meet peers now happening) later

/-- Whatever happens, the plane goes on with its settings and its fleet. -/
theorem meet_alike (plane : Plane) (now : Int) (happening : Happening) (before : Exchange σ) :
    ∃ last after, plane.meet peers now happening before = .ok last after ∧ plane.Alike last := by
  cases happening with
  | asked operation =>
    rw [meet]
    rcases attempt_cases (plane.perform peers now operation) before with
      ⟨⟨answer, last⟩, after, performed, attempted⟩ | ⟨fault, after, -, attempted⟩
    · rw [bind_of_ran attempted]
      rcases ran_of_bind performed with ⟨permitted, middle, -, acted⟩
      exact ⟨last, after, rfl, alike_of_act peers acted⟩
    · rw [bind_of_ran attempted]
      exact ⟨plane, after, rfl, rfl, rfl⟩
  | due =>
    rw [meet]
    cases plane.monitor with
    | none => exact ⟨plane, before, rfl, rfl, rfl⟩
    | some monitor =>
      rcases attempt_ok (monitor.wake peers plane.fleet now) before with
        ⟨outcome, after, attempted⟩
      dsimp only
      rw [bind_of_ran attempted]
      cases outcome with
      | ok woken => exact ⟨_, after, rfl, rfl, rfl⟩
      | error fault => exact ⟨plane, after, rfl, rfl, rfl⟩

theorem alters_meet {plane : Plane} (readOnly : plane.settings.readOnly = true) (now : Int)
    (happening : Happening) :
    Alters (happening.shells plane.fleet) (plane.meet peers now happening) := by
  cases happening with
  | asked operation =>
    refine (alters_perform peers readOnly now operation).attempt.bind fun outcome => ?_
    rcases outcome with fault | ⟨answer, next⟩ <;> exact harmless_pure _
  | due =>
    unfold meet
    cases plane.monitor with
    | none => exact harmless_pure plane
    | some monitor =>
      refine (monitor.harmless_wake peers plane.fleet now).attempt.bind fun outcome => ?_
      cases outcome <;> exact harmless_pure _

/-- Over any run of a read-only plane the requests that change something are the shells of
the terminals that were opened, each once and in order.  After it every operation that has
words of refusal still fails under them before anything is said to anyone; every other one
would change nothing but for such a shell even if nothing were read-only. -/
theorem altered_by_shells {plane : Plane} (readOnly : plane.settings.readOnly = true)
    (happenings : List (Int × Happening)) (before : Exchange σ) :
    ∃ last after, plane.meetAll peers happenings before = .ok last after ∧
      after.changing.reverse = before.changing.reverse ++
        happenings.flatMap (fun happening => happening.2.shells plane.fleet) ∧
      ∀ now operation,
        (∀ name, operation.guardedName = some name → operation.isIdle = false →
          ∀ exchange : Exchange σ,
            last.perform peers now operation exchange = .error (.readOnly name) exchange) ∧
        (operation.guardedName = none ∨ operation.isIdle = true →
          Alters (operation.shells plane.fleet) (last.act peers now operation)) := by
  induction happenings generalizing plane before with
  | nil =>
    exact ⟨plane, before, rfl, (List.append_nil _).symm, fun now operation =>
      ⟨fun name words begins => perform_refused peers readOnly now words begins,
        plane.alters_act peers now⟩⟩
  | cons happening later inductionHypothesis =>
    rcases happening with ⟨now, happening⟩
    rcases plane.meet_alike peers now happening before with ⟨next, middle, met, settings, fleet⟩
    have altered := alters_meet peers readOnly now happening before
    rw [met] at altered
    rcases inductionHypothesis (settings ▸ readOnly) middle with ⟨last, after, ran, changed, refused⟩
    rw [fleet] at changed refused
    refine ⟨last, after, (bind_of_ran met).trans ran, ?_, refused⟩
    have step : middle.changing.reverse = before.changing.reverse ++ happening.shells plane.fleet := by
      rw [show middle.changing = _ from altered, List.reverse_append, happening.reverse_shells]
    rw [changed, step, List.flatMap_cons, List.append_assoc]

/-- A read-only plane with one host, whose alerts are off. -/
def oneHostReadOnly : Plane where
  settings := ⟨"INFO", true, ⟨"local=unix:///var/run/docker.sock", 60, true⟩,
    ⟨false, 80.0, 90.0, 30.0, none, 10.0, 100⟩⟩
  fleet := ⟨[⟨"local", "unix:///var/run/docker.sock"⟩], List.pairwise_singleton _ _⟩
  monitor := none

/-- A daemon that prepares and attaches every command and refuses all else. -/
def shellsOnly : Peers Unit where
  answer _ call _ :=
    match call with
    | .createExec _ _ => (.ok (.object [("Id", .text "e1")]), ())
    | .attachExec _ | .waitForever => (.ok (), ())
    | .shutDownSocket | .closeSocket => (.ok (), ())
    | _ => (.error ⟨.notFound, "no such container"⟩, ())
  deliver _ _ := (.undelivered, ())

/-- Where stopping a container is refused, a terminal still runs a shell in it. -/
theorem altered_though_readOnly : oneHostReadOnly.settings.readOnly = true ∧ ∃ last after,
    oneHostReadOnly.meetAll shellsOnly
      [(0, .asked (.stopContainer "local" "web")), (1, .asked (.openTerminal "local" "web" true []))]
      (.start ()) = .ok last after ∧
    after.changing =
      [("unix:///var/run/docker.sock", .createExec "web" Terminal.Session.shell)] ∧
    ∀ exchange, last.perform shellsOnly 2 (.stopContainer "local" "web") exchange =
      .error (.readOnly "stop container") exchange := by
  have readOnly : oneHostReadOnly.settings.readOnly = true := rfl
  rcases altered_by_shells shellsOnly readOnly
    [(0, .asked (.stopContainer "local" "web")), (1, .asked (.openTerminal "local" "web" true []))]
    (.start ()) with ⟨last, after, ran, changed, refused⟩
  refine ⟨readOnly, last, after, ran, List.reverse_eq_iff.mp changed, ?_⟩
  exact (refused 2 (.stopContainer "local" "web")).1 "stop container" rfl rfl

end Plane
end ContainerFleet
