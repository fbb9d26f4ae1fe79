import ContainerFleet.CommandLine.Run
import ContainerFleet.Proofs.Fleet.Awaiting
import ContainerFleet.Proofs.Fleet.Clients
import ContainerFleet.Proofs.Settings.HostList

/-!
# The report on all hosts

Each host is checked by a dialogue of its own: its daemon is dialled and pinged, and what
goes wrong on the way is the result of the check.  After that the connection is given up, and
what goes wrong there is no result, but ends the program.  The checks of all hosts are made at
the same time and are waited for together.

`runs_checking` says what a check comes to.  From it and from what waiting is follows the
extent of the report, in whatever order the checks go: `doctor_reports_unless_closing_fails`.
-/

namespace ContainerFleet
namespace CommandLine

open Daemon Fleet

/-! ## One check -/

/-- The daemon says that it is there. -/
def Reached (turns : List Turn) : Prop :=
  ∃ answer, ⟨.ping, .ok answer⟩ ∈ turns

/-- No client can be built, or its daemon does not answer. -/
def Refused (turns : List Turn) (error : PeerError) : Prop :=
  (∃ dial, ⟨.connect dial, .error error⟩ ∈ turns) ∨ ⟨.ping, .error error⟩ ∈ turns

/-- The connection cannot be given up. -/
def Unclosed (turns : List Turn) (error : PeerError) : Prop :=
  ⟨.closeClient, .error error⟩ ∈ turns

/-- What is to be said of a host after these turns. -/
def Verdict (host : Host) (turns : List Turn) (check : Status × String) : Prop :=
  (Reached turns ∧ check = (.ok, s!"reachable via {host.transport.name}")) ∨
    ¬Reached turns ∧ ∃ error, Refused turns error ∧ check = (.error, error.message)

/-- What is to be said of some hosts, in order, after all that was said. -/
def Verdicts (spoken : List (String × Turn)) : List Host → List (Status × String) → Prop :=
  List.Forall₂ fun host check => Verdict host (turnsOf host.name spoken) check

theorem Verdict.ok_iff {host : Host} {turns : List Turn} {check : Status × String}
    (verdict : Verdict host turns check) : check.1 = .ok ↔ Reached turns := by
  rcases verdict with ⟨reached, rfl⟩ | ⟨unreached, error, -, rfl⟩
  · exact ⟨fun _ => reached, fun _ => rfl⟩
  · exact ⟨fun wrong => (nomatch wrong), fun reached => absurd reached unreached⟩

namespace Setting

variable (setting : Setting)

/-- What holds for the connections of all checks. -/
def dialling : Connect.Options :=
  ⟨setting.settings.hosts.timeout, setting.settings.hosts.sshProgram⟩

/-- What is said to the daemon of a host to check it. -/
def checking (host : Host) : Dialogue (Status × String) :=
  .ask (.connect (setting.dialling.dial host)) fun
    | .error error => .done (.ok (.error, error.message))
    | .ok _ => .ask .ping fun
      | .error error => .done (.ok (.error, error.message))
      | .ok _ => .ask .closeClient fun
        | .error error => .done (.error (.peer error))
        | .ok _ => .done (.ok (.ok, s!"reachable via {host.transport.name}"))

variable {setting}

/-- A check ends with a fault just where the connection cannot be given up, and with what is
to be said of the host otherwise. -/
theorem runs_checking {host : Host} {turns : List Turn} {outcome : Except Fault (Status × String)}
    (runs : (setting.checking host).Runs turns outcome) :
    (∃ error, Unclosed turns error ∧ outcome = .error (.peer error)) ∨
    (∀ error, ¬Unclosed turns error) ∧ ∃ check, Verdict host turns check ∧ outcome = .ok check := by
  rw [checking] at runs
  cases runs with
  | ask built runs =>
    cases built with
    | error error =>
      cases runs
      refine .inr ⟨fun _ => by simp [Unclosed], _, .inr ⟨by simp [Reached], error, ?_, rfl⟩, rfl⟩
      exact .inl ⟨_, List.mem_cons_self⟩
    | ok _ =>
      cases runs with
      | ask answered runs =>
        cases answered with
        | error error =>
          cases runs
          refine .inr ⟨fun _ => by simp [Unclosed], _, .inr ⟨by simp [Reached], error, ?_, rfl⟩,
            rfl⟩
          exact .inr (List.mem_cons_of_mem _ List.mem_cons_self)
        | ok answer =>
          cases runs with
          | ask closed runs =>
            cases closed with
            | error error =>
              cases runs
              exact .inl ⟨error, by simp [Unclosed], rfl⟩
            | ok _ =>
              cases runs
              refine .inr ⟨fun _ => by simp [Unclosed], _, .inl ⟨⟨answer, ?_⟩, rfl⟩, rfl⟩
              exact List.mem_cons_of_mem _ List.mem_cons_self

/-! ## The checks of all hosts -/

section Checks

variable {σ : Type} (setting : Setting) (peers : Peers σ)

/-- The report that is made of what came of the checks. -/
def reportOf (hosts : List Host) : Except Fault (List (Status × String)) → Report
  | .error fault => ⟨setting.doctorHead, "", .error fault⟩
  | .ok checks => setting.doctorReport (hosts.zip checks)

/-- The checks of all hosts, each under the name of its host. -/
def checks (hosts : List Host) : List (String × Dialogue (Status × String)) :=
  hosts.map fun host => (host.name, setting.checking host)

theorem connectAll_one (options : Connect.Options) (host : Host) (before : Exchange σ) :
    (∀ after, Connect.connectHost peers options host before = .ok () after →
      ∃ fleet, attempt (Connect.connectAll peers options [host]) before = .ok (.ok fleet) after) ∧
    ∀ error after, Connect.connectHost peers options host before = .error (.peer error) after →
      attempt (Connect.connectAll peers options [host]) before =
        .ok (.error (.hostUnreachable host.name host.uri (.peer error))) after := by
  have fresh : host.name ∉ Fleet.empty.names := List.not_mem_nil
  rcases Connect.add?_of_not_mem fresh with ⟨extended, added, -⟩
  rw [Connect.connectAll, Connect.connectFrom, added]
  dsimp only
  constructor
  · intro after connected
    refine ⟨extended, attempt_of_ran ?_⟩
    rw [bind_of_ran (attempt_of_ran connected)]
    rfl
  · intro error after refused
    refine attempt_of_failed ?_
    rw [bind_of_ran (attempt_of_failed refused)]
    rfl

theorem checkHost_eq (host : Host) :
    setting.checkHost peers host =
      attempt (Connect.connectAll peers setting.dialling [host]) >>= fun connected =>
        match connected with
        | .ok _ => closeClient peers host >>= fun _ =>
          return (.ok, s!"reachable via {host.transport.name}")
        | .error (.hostUnreachable _ _ cause) => return (.error, cause.message)
        | .error fault => throw fault :=
  rfl

/-- A check is held with the daemon of its host. -/
theorem checkHost_runs (host : Host) (before : Exchange σ) :
    ∃ turns outcome after, attempt (setting.checkHost peers host) before = .ok outcome after ∧
      (setting.checking host).Runs turns outcome ∧
      peers.Tells before (turns.map (host.uri, ·)) after := by
  rcases connectAll_one peers setting.dialling host before with ⟨reaches, misses⟩
  let built : Turn := ⟨.connect (setting.dialling.dial host), .ok ()⟩
  rw [checkHost_eq]
  rcases Connect.connectHost_cases setting.dialling peers host before with
    ⟨error, after, refused, told⟩ | ⟨error, after, refused, told⟩ |
    ⟨answer, middle, connected, told⟩
  · refine ⟨_, .ok (.error, error.message), after, attempt_of_ran ?_,
      .ask (.error error) (.done _), told⟩
    rw [bind_of_ran (misses error after refused)]
    rfl
  · refine ⟨[built, ⟨.ping, .error error⟩], .ok (.error, error.message), after,
      attempt_of_ran ?_, .ask _ (.ask _ (.done _)), told⟩
    rw [bind_of_ran (misses error after refused)]
    rfl
  · rcases reaches middle connected with ⟨fleet, reached⟩
    rcases request_cases peers host.uri .closeClient middle with
      ⟨value, after, closed, last⟩ | ⟨error, after, failed, last⟩
    · refine ⟨[built, ⟨.ping, .ok answer⟩, ⟨.closeClient, .ok value⟩], _, after,
        attempt_of_ran ?_, .ask _ (.ask _ (.ask _ (.done _))), told.append last⟩
      rw [bind_of_ran reached]
      exact bind_of_ran closed
    · refine ⟨[built, ⟨.ping, .ok answer⟩, ⟨.closeClient, .error error⟩], _, after,
        attempt_of_failed ?_, .ask _ (.ask _ (.ask _ (.done _))), told.append last⟩
      rw [bind_of_ran reached]
      exact bind_of_failed failed

/-- To check one host after the other is one of the orders that can be. -/
theorem awaited_of_mapM {hosts : List Host} (distinct : (hosts.map Host.name).Nodup)
    (before : Exchange σ) :
    ∃ (told : List (Host × Turn)) (result : Except Fault (List (Status × String)))
      (after : Exchange σ),
      attempt (hosts.mapM fun host => setting.checkHost peers host) before = .ok result after ∧
      Awaited (setting.checks hosts) (told.map fun said => (said.1.name, said.2)) result ∧
      peers.Tells before (told.map fun said => (said.1.uri, said.2)) after := by
  induction hosts generalizing before with
  | nil => exact ⟨[], .ok [], before, rfl, .all (.done []) rfl, rfl⟩
  | cons host later inductionHypothesis =>
    rcases List.nodup_cons.mp distinct with ⟨absent, distinctLater⟩
    rcases setting.checkHost_runs peers host before with ⟨turns, outcome, middle, ran, runs, told⟩
    cases outcome with
    | error fault =>
      refine ⟨turns.map (host, ·), .error fault, middle, attempt_mapM_failed ran, ?_, ?_⟩
      · rw [List.map_map]
        refine .fails runs ?_
        rw [List.map_map]
        exact absent
      · rw [List.map_map]
        exact told
    | ok check =>
      rcases inductionHypothesis distinctLater middle with
        ⟨others, result, after, rest, awaited, toldLater⟩
      refine ⟨turns.map (host, ·) ++ others, _, after, attempt_mapM_cons ran rest, ?_, ?_⟩
      · rw [List.map_append, List.map_map]
        exact awaited.cons runs
      · rw [List.map_append, List.map_map]
        exact told.append toldLater

end Checks

/-! ## The report -/

section Reports

variable (setting : Setting)

/-- The lines of a report before its last: one for each host, in order, and those about the
settings. -/
def linesFor (hosts : List Host) (checks : List (Status × String)) : String :=
  setting.doctorHead ++
    String.join ((hosts.zip checks).map fun check => setting.hostLine check.1 check.2) ++
    setting.settingLines

/-- A whole report on some hosts, to whose daemons this was said. -/
inductive Full (hosts : List Host) (spoken : List (String × Turn)) : Report → Prop
  | reachable {checks : List (Status × String)} :
      Verdicts spoken hosts checks →
      (∀ host ∈ hosts, Reached (turnsOf host.name spoken)) →
      Full hosts spoken
        ⟨setting.linesFor hosts checks ++ setting.line .green "✓ All hosts reachable", "", .ok 0⟩
  | unreachable {checks : List (Status × String)} :
      Verdicts spoken hosts checks →
      (∃ host ∈ hosts, ¬Reached (turnsOf host.name spoken)) →
      Full hosts spoken
        ⟨setting.linesFor hosts checks ++ setting.line .red "✗ One or more hosts unreachable", "",
          .ok 1⟩

variable {hosts : List Host} {spoken : List (String × Turn)}

/-- The program does not end with a fault where the report is whole. -/
theorem Full.returns {setting : Setting} {report : Report}
    (full : setting.Full hosts spoken report) : ∃ code, report.ending = .ok code := by
  cases full <;> exact ⟨_, rfl⟩

theorem full_of_verdicts {checks : List (Status × String)}
    (verdicts : Verdicts spoken hosts checks) :
    setting.Full hosts spoken (setting.doctorReport (hosts.zip checks)) := by
  have firsts : (hosts.zip checks).map Prod.fst = hosts :=
    List.map_fst_zip verdicts.length_eq.le
  rw [doctorReport]
  cases found : (hosts.zip checks).all fun check => check.2.1 == .ok with
  | true =>
    rw [List.all_eq_true] at found
    refine .reachable verdicts fun host member => ?_
    rw [← firsts] at member
    rcases List.mem_map.mp member with ⟨⟨_, check⟩, among, rfl⟩
    exact (List.forall₂_zip verdicts among).ok_iff.mp (by simpa using found _ among)
  | false =>
    rw [List.all_eq_false] at found
    rcases found with ⟨⟨host, check⟩, among, wrong⟩
    refine .unreachable verdicts ⟨host, (List.of_mem_zip among).1, fun reached => wrong ?_⟩
    simpa using (List.forall₂_zip verdicts among).ok_iff.mpr reached

theorem doctor_eq {σ : Type} (peers : Peers σ) {before after : Exchange σ}
    {result : Except Fault (List (Status × String))}
    (came : attempt (setting.settings.hosts.list.mapM fun host => setting.checkHost peers host)
      before = .ok result after) :
    setting.doctor peers before =
      .ok (setting.reportOf setting.settings.hosts.list result) after := by
  rw [doctor, bind_of_ran came]
  cases result <;> rfl

variable {setting}

/-- A check whose connection could not be given up is what a fault comes from. -/
theorem unclosed_of_awaited (distinct : (hosts.map Host.name).Nodup) {fault : Fault}
    (awaited : Awaited (setting.checks hosts) spoken (.error fault)) :
    ∃ host ∈ hosts, ∃ error, Unclosed (turnsOf host.name spoken) error ∧
      fault = .peer error := by
  rcases awaited.fault_of (by rw [checks, List.map_map]; exact distinct) with
    ⟨worker, member, runs⟩
  rcases List.mem_map.mp member with ⟨host, listed, rfl⟩
  rcases runs_checking runs with ⟨error, unclosed, same⟩ | ⟨-, check, -, wrong⟩
  · cases same
    exact ⟨host, listed, error, unclosed, rfl⟩
  · cases wrong

/-- Where all checks come to a value, each host has its verdict and every connection was given
up. -/
theorem verdicts_of_awaited (distinct : (hosts.map Host.name).Nodup)
    {values : List (Status × String)}
    (awaited : Awaited (setting.checks hosts) spoken (.ok values)) :
    Verdicts spoken hosts values ∧
      ∀ host ∈ hosts, ∀ error, ¬Unclosed (turnsOf host.name spoken) error := by
  have runs := List.forall₂_map_left_iff.mp
    (awaited.value_of (by rw [checks, List.map_map]; exact distinct))
  have each : List.Forall₂ (fun host check => Verdict host (turnsOf host.name spoken) check ∧
      ∀ error, ¬Unclosed (turnsOf host.name spoken) error) hosts values := by
    refine runs.imp fun host value run => ?_
    rcases runs_checking run with ⟨error, -, wrong⟩ | ⟨closed, check, verdict, same⟩
    · cases wrong
    · cases same
      exact ⟨verdict, closed⟩
  refine ⟨each.imp fun _ _ both => both.1, fun host member => ?_⟩
  rw [← List.map_fst_zip each.length_eq.le] at member
  rcases List.mem_map.mp member with ⟨⟨_, value⟩, among, rfl⟩
  exact (List.forall₂_zip each among).2

/-- The report is whole, whatever goes wrong with whichever hosts, unless a connection cannot
be given up again: then nothing is said of any host, and the program ends with what went wrong
there.  This is so in whatever order the checks go, and in each the waiting for them ends; and
to make one check after the other, each with what the daemon of its host answers, is one of
these orders.  The settings are any whose list of hosts is taken. -/
theorem doctor_reports_unless_closing_fails (setting : Setting)
    (accepted : HostList.check setting.settings.hosts.hosts = .ok ()) {σ : Type}
    (peers : Peers σ) (before : Exchange σ) :
    let hosts := setting.settings.hosts.list
    (∀ spoken outcomes, Interleaved (setting.checks hosts) spoken outcomes →
      ∃ result, Awaited (setting.checks hosts) spoken result) ∧
    (∀ spoken result, Awaited (setting.checks hosts) spoken result →
      ((∀ host ∈ hosts, ∀ error, ¬Unclosed (turnsOf host.name spoken) error) →
        setting.Full hosts spoken (setting.reportOf hosts result)) ∧
      ((∃ host ∈ hosts, ∃ error, Unclosed (turnsOf host.name spoken) error) →
        ∃ host ∈ hosts, ∃ error, Unclosed (turnsOf host.name spoken) error ∧
          setting.reportOf hosts result = ⟨setting.doctorHead, "", .error (.peer error)⟩)) ∧
    ∃ (told : List (Host × Turn)) (result : Except Fault (List (Status × String)))
      (after : Exchange σ),
      setting.doctor peers before = .ok (setting.reportOf hosts result) after ∧
      Awaited (setting.checks hosts) (told.map fun said => (said.1.name, said.2)) result ∧
      peers.Tells before (told.map fun said => (said.1.uri, said.2)) after := by
  intro hosts
  have distinct : (hosts.map Host.name).Nodup := HostList.distinct_hosts accepted
  refine ⟨fun spoken outcomes => Awaited.exists_of_interleaved,
    fun spoken result awaited => ?_, ?_⟩
  · cases result with
    | error fault =>
      rcases unclosed_of_awaited distinct awaited with ⟨host, member, error, unclosed, rfl⟩
      refine ⟨fun closed => absurd unclosed (closed host member error), fun _ => ?_⟩
      exact ⟨host, member, error, unclosed, rfl⟩
    | ok values =>
      rcases verdicts_of_awaited distinct awaited with ⟨verdicts, closed⟩
      refine ⟨fun _ => setting.full_of_verdicts verdicts, ?_⟩
      rintro ⟨host, member, error, unclosed⟩
      exact absurd unclosed (closed host member error)
  · rcases setting.awaited_of_mapM peers distinct before with
      ⟨told, result, after, ran, awaited, tells⟩
    exact ⟨told, result, after, setting.doctor_eq peers ran, awaited, tells⟩

end Reports

/-- One host and nothing else that matters. -/
def oneHost : Setting :=
  ⟨⟨"INFO", false, ⟨"local=unix:///var/run/docker.sock", 60, true⟩,
    ⟨false, 90, 90, 60, none, 10, 100⟩⟩, false, 0⟩

/-- A daemon that answers and whose connections cannot be given up. -/
def clingingDaemon : Peers Unit where
  answer _ call _ :=
    match call with
    | .connect _ => (.ok (), ())
    | .ping => (.ok (.bool true), ())
    | _ => (.error ⟨.failure, "close failed"⟩, ())
  deliver _ _ := (.undelivered, ())

/-- The only host is reached, and nothing is said of it. -/
theorem report_lost_by_closing :
    HostList.check oneHost.settings.hosts.hosts = .ok () ∧
    ∃ spoken result after, Awaited (oneHost.checks oneHost.settings.hosts.list) spoken result ∧
      (∃ host ∈ oneHost.settings.hosts.list, ∃ error,
        Unclosed (turnsOf host.name spoken) error) ∧
      oneHost.doctor clingingDaemon (.start ()) = .ok ⟨"\nfleetdock Doctor\n" ++
        "============================================================\n\n", "",
        .error (.peer ⟨.failure, "close failed"⟩)⟩ after := by
  have accepted : HostList.check oneHost.settings.hosts.hosts = .ok () := by decide
  have listed : oneHost.settings.hosts.list = [⟨"local", "unix:///var/run/docker.sock"⟩] := by
    decide
  have head : oneHost.doctorHead = "\nfleetdock Doctor\n" ++
      "============================================================\n\n" := by
    decide +kernel
  obtain ⟨last, came⟩ : ∃ last, attempt (oneHost.settings.hosts.list.mapM fun host =>
      oneHost.checkHost clingingDaemon host) (.start ()) =
        .ok (.error (.peer ⟨.failure, "close failed"⟩)) last := by
    rw [listed]
    exact ⟨_, rfl⟩
  have lost : oneHost.doctor clingingDaemon (.start ()) =
      .ok ⟨oneHost.doctorHead, "", .error (.peer ⟨.failure, "close failed"⟩)⟩ last :=
    oneHost.doctor_eq clingingDaemon came
  rcases doctor_reports_unless_closing_fails oneHost accepted clingingDaemon (.start ()) with
    ⟨-, every, told, result, after, ran, awaited, -⟩
  have ended : oneHost.reportOf oneHost.settings.hosts.list result =
      ⟨oneHost.doctorHead, "", .error (.peer ⟨.failure, "close failed"⟩)⟩ :=
    (EStateM.Result.ok.inj (ran.symm.trans lost)).1
  rw [head] at lost
  refine ⟨accepted, _, result, last, awaited, ?_, lost⟩
  by_contra closed
  have whole := (every _ result awaited).1 fun host member error unclosed =>
    closed ⟨host, member, error, unclosed⟩
  rcases whole.returns with ⟨code, returned⟩
  rw [ended] at returned
  cases returned

end Setting
end CommandLine
end ContainerFleet
