import ContainerFleet.Proofs.Daemon.Dialogue
import ContainerFleet.Proofs.Fleet.Startup

/-!
# Clients that stay open

To connect a host a client is built for its daemon, and then the daemon has to answer a
ping.  A client belongs to nobody between these two steps: where the ping fails, what has
been connected before is given up, but not the client that was just built.

`Enacts` says which requests a deed of connecting consists of, so that the clients built
and the clients closed can be counted in what was said to the daemons.  `left_open` is the
exact account of a start that fails: each client that was built is closed once, except
that of the host whose ping failed.
-/

namespace ContainerFleet

namespace Daemon

/-- In these turns, each at an address, the daemons answer as the peers do, from one
exchange to the other. -/
def Peers.Tells {σ : Type} (peers : Peers σ) :
    Exchange σ → List (String × Turn) → Exchange σ → Prop
  | before, [], after => after = before
  | before, (uri, turn) :: later, after =>
    let answered := peers.answer uri turn.call before.peers
    turn.answer = answered.1 ∧ peers.Tells
      { before with peers := answered.2, calls := (uri, turn.call) :: before.calls } later after

theorem Peers.Tells.append {σ : Type} {peers : Peers σ} {first second : List (String × Turn)}
    {before middle after : Exchange σ} (tells : peers.Tells before first middle)
    (goesOn : peers.Tells middle second after) : peers.Tells before (first ++ second) after := by
  induction first generalizing before with
  | nil =>
    cases tells
    exact goesOn
  | cons said later inductionHypothesis => exact ⟨tells.1, inductionHypothesis tells.2⟩

theorem Peers.Tells.answered {σ : Type} {peers : Peers σ} {spoken : List (String × Turn)}
    {before after : Exchange σ} (tells : peers.Tells before spoken after) {uri : String}
    {turn : Turn} (member : (uri, turn) ∈ spoken) :
    ∃ state, turn.answer = (peers.answer uri turn.call state).1 := by
  induction spoken generalizing before with
  | nil => cases member
  | cons said later inductionHypothesis =>
    rcases List.mem_cons.mp member with rfl | inLater
    · exact ⟨before.peers, tells.1⟩
    · exact inductionHypothesis tells.2 inLater

/-- A request is one turn, and fails as its answer says. -/
theorem request_cases {σ : Type} (peers : Peers σ) (uri : String) (call : Call)
    (before : Exchange σ) :
    (∃ value after, peers.request uri call before = .ok value after ∧
      peers.Tells before [(uri, ⟨call, .ok value⟩)] after) ∨
    (∃ error after, peers.request uri call before = .error (.peer error) after ∧
      peers.Tells before [(uri, ⟨call, .error error⟩)] after) := by
  rcases said : peers.answer uri call before.peers with ⟨answer, state⟩
  rw [Peers.request, said]
  cases answer with
  | ok value =>
    refine .inl ⟨value, _, rfl, ?_⟩
    simp [Peers.Tells, said]
  | error error =>
    refine .inr ⟨error, _, rfl, ?_⟩
    simp [Peers.Tells, said]

end Daemon

namespace Connect

open Daemon

variable {σ : Type}

/-! ## Clients -/

/-- The address of the client that this turn built. -/
def built? (said : String × Turn) : Option String :=
  match said.2.call with
  | .connect _ => if said.2.succeeds then some said.1 else none
  | _ => none

/-- The address of the client that this turn was to close. -/
def closed? (said : String × Turn) : Option String :=
  match said.2.call with
  | .closeClient => some said.1
  | _ => none

/-- The clients that were built, in order. -/
def built (spoken : List (String × Turn)) : List String :=
  spoken.filterMap built?

/-- The clients that were to be closed, in order. -/
def closed (spoken : List (String × Turn)) : List String :=
  spoken.filterMap closed?

theorem built_append (first second : List (String × Turn)) :
    built (first ++ second) = built first ++ built second :=
  List.filterMap_append

theorem closed_append (first second : List (String × Turn)) :
    closed (first ++ second) = closed first ++ closed second :=
  List.filterMap_append

/-! ## Deeds and their requests -/

section Requests

variable (options : Options)

/-- A client is built for a host, or refused. -/
def dialled (host : Host) (answer : Except PeerError Unit) : String × Turn :=
  (host.uri, ⟨.connect (options.dial host), answer⟩)

/-- The daemon of a host is asked whether it is there. -/
def pinged (host : Host) (answer : Except PeerError Json) : String × Turn :=
  (host.uri, ⟨.ping, answer⟩)

/-- The client of a host is closed, or this fails. -/
def hungUp (host : Host) (answer : Except PeerError Unit) : String × Turn :=
  (host.uri, ⟨.closeClient, answer⟩)

/-- The requests of which a deed consists. -/
inductive Enacts : Deed Host → List (String × Turn) → Prop
  | unbuilt (host : Host) (error : PeerError) :
      Enacts (.connect host (.error (.peer error))) [dialled options host (.error error)]
  | unanswered (host : Host) (error : PeerError) :
      Enacts (.connect host (.error (.peer error)))
        [dialled options host (.ok ()), pinged host (.error error)]
  | reached (host : Host) (answer : Json) :
      Enacts (.connect host (.ok host)) [dialled options host (.ok ()), pinged host (.ok answer)]
  | released (host : Host) (answer : Except PeerError Unit) :
      Enacts (.close host) [hungUp host answer]

variable (peers : Peers σ)

/-- A host is dialled and, once its client is built, pinged. -/
theorem connectHost_cases (host : Host) (before : Exchange σ) :
    (∃ error after, connectHost peers options host before = .error (.peer error) after ∧
      peers.Tells before [dialled options host (.error error)] after) ∨
    (∃ error after, connectHost peers options host before = .error (.peer error) after ∧
      peers.Tells before [dialled options host (.ok ()), pinged host (.error error)] after) ∨
    (∃ answer after, connectHost peers options host before = .ok () after ∧
      peers.Tells before [dialled options host (.ok ()), pinged host (.ok answer)] after) := by
  rw [connectHost]
  rcases request_cases peers host.uri (.connect (options.dial host)) before with
    ⟨value, middle, built, first⟩ | ⟨error, after, refused, told⟩
  · right
    rw [bind_of_ran built, ping]
    rcases request_cases peers host.uri .ping middle with
      ⟨answer, after, answered, second⟩ | ⟨error, after, silent, second⟩
    · right
      refine ⟨answer, after, ?_, first.append second⟩
      rw [bind_assoc, bind_of_ran answered]
      rfl
    · left
      refine ⟨error, after, ?_, first.append second⟩
      rw [bind_assoc, bind_of_failed silent]
  · left
    exact ⟨error, after, bind_of_failed refused, told⟩

theorem enacts_connect {host : Host} {outcome : Except Fault Host} {before after : Exchange σ}
    (attempted : attempt ((daemons peers (connectHost peers options)).connect host) before =
      .ok outcome after) :
    ∃ spoken, peers.Tells before spoken after ∧
      Enacts options (.connect host outcome) spoken := by
  rw [attempt_connect] at attempted
  rcases connectHost_cases options peers host before with
    ⟨error, last, ran, told⟩ | ⟨error, last, ran, told⟩ | ⟨answer, last, ran, told⟩
  · rw [bind_of_ran (attempt_of_failed ran)] at attempted
    cases attempted
    exact ⟨_, told, .unbuilt host error⟩
  · rw [bind_of_ran (attempt_of_failed ran)] at attempted
    cases attempted
    exact ⟨_, told, .unanswered host error⟩
  · rw [bind_of_ran (attempt_of_ran ran)] at attempted
    cases attempted
    exact ⟨_, told, .reached host answer⟩

theorem enacts_close {host : Host} {outcome : Except Fault Unit} {before after : Exchange σ}
    (attempted : attempt (closeClient peers host) before = .ok outcome after) :
    ∃ spoken, peers.Tells before spoken after ∧ Enacts options (.close host) spoken := by
  rw [closeClient] at attempted
  rcases request_cases peers host.uri .closeClient before with
    ⟨value, last, ran, told⟩ | ⟨error, last, ran, told⟩
  · cases attempted.symm.trans (attempt_of_ran ran)
    exact ⟨_, told, .released host (.ok value)⟩
  · cases attempted.symm.trans (attempt_of_failed ran)
    exact ⟨_, told, .released host (.error error)⟩

/-- Connecting hosts builds their clients and closes none. -/
theorem told_of_made {made : List (Host × Host)} {before after : Exchange σ}
    (performs : (daemons peers (connectHost peers options)).Performs before
      (made.map Deed.made) after) :
    ∃ spoken, peers.Tells before spoken after ∧ built spoken = made.map (·.1.uri) ∧
      closed spoken = [] ∧ made.map Prod.snd = made.map Prod.fst := by
  induction made generalizing before with
  | nil =>
    cases performs
    exact ⟨[], rfl, rfl, rfl, rfl⟩
  | cons entry later inductionHypothesis =>
    rcases entry with ⟨host, held⟩
    cases performs with
    | connect attempted rest =>
      rcases enacts_connect options peers attempted with ⟨piece, told, enacts⟩
      rcases inductionHypothesis rest with ⟨spoken, toldLater, ones, noneClosed, same⟩
      cases enacts with
      | reached answer =>
        refine ⟨_, told.append toldLater, ?_, ?_, ?_⟩
        · rw [built_append, ones]
          rfl
        · rw [closed_append, noneClosed]
          rfl
        · rw [List.map_cons, List.map_cons, same]

/-- Giving up connections is to close each of their clients. -/
theorem told_of_undone {made : List (Host × Host)} {before after : Exchange σ}
    (performs : (daemons peers (connectHost peers options)).Performs before
      (made.map Deed.undone) after) :
    ∃ spoken, peers.Tells before spoken after ∧ built spoken = [] ∧
      closed spoken = (made.map Prod.snd).map Host.uri := by
  induction made generalizing before with
  | nil =>
    cases performs
    exact ⟨[], rfl, rfl, rfl⟩
  | cons entry later inductionHypothesis =>
    cases performs with
    | close attempted rest =>
      rcases enacts_close options peers attempted with ⟨piece, told, enacts⟩
      rcases inductionHypothesis rest with ⟨spoken, toldLater, noneBuilt, ones⟩
      cases enacts with
      | released answer =>
        refine ⟨_, told.append toldLater, ?_, ?_⟩
        · rw [built_append, noneBuilt]
          rfl
        · rw [closed_append, ones]
          rfl

/-! ## The account of a start -/

/-- What was last tried: the requests made for a host, the cause that is reported and the
client that was built for it. -/
inductive LastTry (host : Host) : List (String × Turn) → ConnectCause → List String → Prop
  /-- The name is taken, and nothing is asked. -/
  | repeated : LastTry host [] .duplicateName []
  /-- No client can be built. -/
  | unbuilt (error : PeerError) :
      LastTry host [dialled options host (.error error)] (.peer error) []
  /-- A client is built and its daemon does not answer. -/
  | unanswered (error : PeerError) :
      LastTry host [dialled options host (.ok ()), pinged host (.error error)] (.peer error)
        [host.uri]

theorem lastTry_of_enacts {host : Host} {fault : Fault} {piece : List (String × Turn)}
    (enacts : Enacts options (.connect host (.error fault)) piece) :
    ∃ error, fault = .peer error ∧ LastTry options host piece (.peer error) (built piece) ∧
      closed piece = [] := by
  cases enacts with
  | unbuilt host error => exact ⟨error, rfl, .unbuilt error, rfl⟩
  | unanswered host error => exact ⟨error, rfl, .unanswered error, rfl⟩

variable {options peers} {hosts : List Host} {before after : Exchange σ}

theorem connectAll_ok {table : Table String Host}
    (ran : (daemons peers (connectHost peers options)).connectAll hosts before =
      .ok (.ok table) after) :
    ∃ fleet, connectAll peers options hosts before = .ok fleet after ∧ fleet.table = table := by
  have same := congrFun (table_connectAll peers options hosts) before
  rw [bind_of_ran ran] at same
  change EStateM.map Fleet.table (connectAll peers options hosts) before = .ok table after at same
  rw [EStateM.map] at same
  cases connected : connectAll peers options hosts before with
  | error fault last =>
    rw [connected] at same
    cases same
  | ok fleet last =>
    rw [connected] at same
    cases same
    exact ⟨fleet, rfl, rfl⟩

theorem connectAll_error {unreached : Unreached}
    (ran : (daemons peers (connectHost peers options)).connectAll hosts before =
      .ok (.error unreached) after) :
    connectAll peers options hosts before = .error unreached.fault after := by
  have same := congrFun (table_connectAll peers options hosts) before
  rw [bind_of_ran ran] at same
  change EStateM.map Fleet.table (connectAll peers options hosts) before =
    .error unreached.fault after at same
  rw [EStateM.map] at same
  cases connected : connectAll peers options hosts before with
  | ok fleet last =>
    rw [connected] at same
    cases same
  | error fault last =>
    rw [connected] at same
    cases same
    rfl

variable (options peers)

/-- Where all hosts are connected no client is closed.  Where they are not, each client
that was built is closed once, except one: that of the host at which connecting ended, if
it was built and its daemon did not answer. -/
theorem left_open (hosts : List Host) (before : Exchange σ) :
    ∃ spoken outcome after, attempt (connectAll peers options hosts) before = .ok outcome after ∧
      peers.Tells before spoken after ∧
      ((∃ fleet, outcome = .ok fleet ∧ fleet.hosts = hosts ∧
          built spoken = hosts.map Host.uri ∧ closed spoken = []) ∨
        ∃ earlier host later tried cause opened, hosts = earlier ++ host :: later ∧
          outcome = .error (.hostUnreachable host.name host.uri cause) ∧
          LastTry options host tried cause opened ∧ tried <:+: spoken ∧
          closed spoken = earlier.map Host.uri ∧ built spoken = closed spoken ++ opened) := by
  rcases (daemons peers (connectHost peers options)).connectAll_course hosts before with
    ⟨deeds, outcome, after, ran, performs, course⟩
  cases course with
  | @all made distinct =>
    rcases connectAll_ok ran with ⟨fleet, connected, table⟩
    rcases told_of_made options peers performs with ⟨spoken, told, ones, noneClosed, same⟩
    refine ⟨spoken, .ok fleet, after, attempt_of_ran connected, told,
      .inl ⟨fleet, rfl, ?_, ?_, noneClosed⟩⟩
    · have held := congrArg (List.map Prod.snd) table
      simpa [Fleet.table, bound, Function.comp_def] using held.trans (by simpa [bound] using same)
    · rw [ones, List.map_map]
      rfl
  | @repeated made host later distinct taken =>
    rcases performs.split with ⟨middle, connecting, releasing⟩
    rcases told_of_made options peers connecting with ⟨first, toldFirst, ones, noneClosed, same⟩
    rcases told_of_undone options peers releasing with ⟨last, toldLast, noneBuilt, allClosed⟩
    refine ⟨first ++ last, _, after, attempt_of_failed (connectAll_error ran),
      toldFirst.append toldLast, .inr ⟨made.map Prod.fst, host, later, [], _, [], rfl, rfl,
        .repeated, List.nil_infix, ?_, ?_⟩⟩
    · rw [closed_append, noneClosed, allClosed, same, List.nil_append]
    · rw [closed_append, built_append, noneClosed, allClosed, noneBuilt, ones, same]
      simp
  | @failed made host fault later distinct absent =>
    rcases performs.split with ⟨middle, connecting, rest⟩
    cases rest with
    | connect attempted releasing =>
      rcases told_of_made options peers connecting with
        ⟨first, toldFirst, ones, noneClosed, same⟩
      rcases enacts_connect options peers attempted with ⟨piece, toldPiece, enacts⟩
      rcases told_of_undone options peers releasing with
        ⟨last, toldLast, noneBuilt, allClosed⟩
      rcases lastTry_of_enacts options enacts with ⟨error, rfl, lastTry, unclosed⟩
      refine ⟨first ++ (piece ++ last), _, after, attempt_of_failed (connectAll_error ran),
        toldFirst.append (toldPiece.append toldLast),
        .inr ⟨made.map Prod.fst, host, later, piece, _, _, rfl, rfl, lastTry, ⟨first, last, ?_⟩,
          ?_, ?_⟩⟩
      · rw [List.append_assoc]
      · rw [closed_append, closed_append, noneClosed, unclosed, allClosed, same]
        rfl
      · rw [closed_append, closed_append, built_append, built_append, noneClosed, unclosed,
          allClosed, noneBuilt, ones, same]
        simp

end Requests

/-- A daemon for which clients can be built and which answers none of them. -/
def silentDaemon : Peers Unit where
  answer _ call _ :=
    match call with
    | .connect _ | .closeClient => (.ok (), ())
    | _ => (.error ⟨.timeout, "timed out"⟩, ())
  deliver _ _ := (.undelivered, ())

/-- The only client that was built is never closed. -/
theorem left_open_by_silence : ∃ spoken after,
    attempt (connectAll silentDaemon .default [⟨"a", "unix:///a"⟩]) (.start ()) =
      .ok (.error (.hostUnreachable "a" "unix:///a" (.peer ⟨.timeout, "timed out"⟩))) after ∧
    silentDaemon.Tells (.start ()) spoken after ∧
    built spoken = ["unix:///a"] ∧ closed spoken = [] := by
  obtain ⟨last, ended⟩ : ∃ last,
      attempt (connectAll silentDaemon .default [⟨"a", "unix:///a"⟩]) (.start ()) =
        .ok (.error (.hostUnreachable "a" "unix:///a" (.peer ⟨.timeout, "timed out"⟩))) last :=
    ⟨_, rfl⟩
  rcases left_open .default silentDaemon [⟨"a", "unix:///a"⟩] (.start ()) with
    ⟨spoken, outcome, after, ran, told, ⟨fleet, rfl, -⟩ |
      ⟨earlier, host, later, tried, cause, opened, listed, rfl, lastTry, within, ones, account⟩⟩
  · cases ended.symm.trans ran
  · have alone : earlier = [] := by
      have lengths := congrArg List.length listed
      rw [List.length_append, List.length_cons, List.length_cons, List.length_nil] at lengths
      exact List.eq_nil_of_length_eq_zero (by omega)
    subst alone
    rcases List.cons.inj listed with ⟨rfl, -⟩
    cases ended.symm.trans ran
    cases lastTry with
    | unbuilt error =>
      -- The daemon never refuses a client.
      rcases told.answered (within.subset List.mem_cons_self) with ⟨state, refused⟩
      cases refused
    | unanswered error =>
      refine ⟨spoken, last, ended, told, ?_, ones⟩
      rw [account, ones]
      rfl

end Connect
end ContainerFleet
