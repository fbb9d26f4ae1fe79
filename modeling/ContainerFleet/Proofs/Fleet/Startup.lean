import ContainerFleet.Connect.Connector
import ContainerFleet.Proofs.Fleet.Connecting
import ContainerFleet.Proofs.Table

/-!
# All hosts or none

What is done while hosts are connected is a list of deeds: connections are asked for, each
with what came of it, and connections are given up.  `Course` says which lists of deeds go
with which outcome, and `all_or_nothing` that connecting always takes such a course,
whatever connections are, however making one fails and whether or not giving one up does.

The daemons of a fleet need no argument of their own: connecting them is the case in which
the host stands for its connection.
-/

namespace ContainerFleet
namespace Connect

open Daemon

variable {σ ε : Type}

/-! ## Deeds -/

/-- What is attempted while hosts are connected. -/
inductive Deed (ε : Type) where
  /-- A connection to a host is asked for, and this comes of it. -/
  | connect (host : Host) (outcome : Except Fault ε)
  /-- A connection is given up, whatever comes of that. -/
  | close (endpoint : ε)

/-- A connection that was asked for and made. -/
def Deed.made (entry : Host × ε) : Deed ε := .connect entry.1 (.ok entry.2)

/-- A connection that is given up again. -/
def Deed.undone (entry : Host × ε) : Deed ε := .close entry.2

/-- Connections under the names of their hosts. -/
def bound (made : List (Host × ε)) : Table String ε :=
  made.map fun entry => (entry.1.name, entry.2)

theorem keys_bound (made : List (Host × ε)) :
    (bound made).keys = (made.map Prod.fst).map Host.name := by
  simp [bound, Table.keys]

namespace Connector

/-- From one exchange to the other exactly these deeds are done, one after another. -/
inductive Performs (connector : Connector σ ε) :
    Exchange σ → List (Deed ε) → Exchange σ → Prop
  | nothing (exchange : Exchange σ) : Performs connector exchange [] exchange
  | connect {host : Host} {outcome : Except Fault ε} {before middle after : Exchange σ}
      {deeds : List (Deed ε)} :
      attempt (connector.connect host) before = .ok outcome middle →
      Performs connector middle deeds after →
      Performs connector before (.connect host outcome :: deeds) after
  | close {endpoint : ε} {outcome : Except Fault Unit} {before middle after : Exchange σ}
      {deeds : List (Deed ε)} :
      attempt (connector.close endpoint) before = .ok outcome middle →
      Performs connector middle deeds after →
      Performs connector before (.close endpoint :: deeds) after

theorem Performs.split {connector : Connector σ ε} {first second : List (Deed ε)}
    {before after : Exchange σ} (performs : connector.Performs before (first ++ second) after) :
    ∃ middle, connector.Performs before first middle ∧
      connector.Performs middle second after := by
  induction first generalizing before with
  | nil => exact ⟨before, .nothing before, performs⟩
  | cons deed later inductionHypothesis =>
    cases performs with
    | connect attempted rest =>
      rcases inductionHypothesis rest with ⟨middle, done, goesOn⟩
      exact ⟨middle, .connect attempted done, goesOn⟩
    | close attempted rest =>
      rcases inductionHypothesis rest with ⟨middle, done, goesOn⟩
      exact ⟨middle, .close attempted done, goesOn⟩

end Connector

/-- How connecting some hosts goes: the deeds, and the connections by name or the host at
which it ended. -/
inductive Course : List Host → List (Deed ε) → Except Unreached (Table String ε) → Prop
  /-- Each host is connected, under a name of its own, and nothing is given up. -/
  | all {made : List (Host × ε)} :
      ((made.map Prod.fst).map Host.name).Nodup →
      Course (made.map Prod.fst) (made.map Deed.made) (.ok (bound made))
  /-- All hosts before this one are connected and it has the name of one of them.  It is
  not asked for a connection, and those that were made are given up, each once. -/
  | repeated {made : List (Host × ε)} {host : Host} {later : List Host} :
      ((made.map Prod.fst).map Host.name).Nodup →
      host.name ∈ (made.map Prod.fst).map Host.name →
      Course (made.map Prod.fst ++ host :: later)
        (made.map Deed.made ++ made.map Deed.undone) (.error ⟨host, none⟩)
  /-- All hosts before this one are connected and it cannot be.  The connections that were
  made are given up, each once. -/
  | failed {made : List (Host × ε)} {host : Host} {fault : Fault} {later : List Host} :
      ((made.map Prod.fst).map Host.name).Nodup →
      host.name ∉ (made.map Prod.fst).map Host.name →
      Course (made.map Prod.fst ++ host :: later)
        (made.map Deed.made ++ .connect host (.error fault) :: made.map Deed.undone)
        (.error ⟨host, some fault⟩)

namespace Connector

variable (connector : Connector σ ε)

/-- Giving up connections never fails and leaves none out. -/
theorem closeAll_performs (made : List (Host × ε)) (before : Exchange σ) :
    ∃ after, connector.closeAll (bound made) before = .ok () after ∧
      connector.Performs before (made.map Deed.undone) after := by
  unfold closeAll
  induction made generalizing before with
  | nil => exact ⟨before, rfl, .nothing before⟩
  | cons entry made inductionHypothesis =>
    rcases attempt_ok (connector.close entry.2) before with ⟨outcome, middle, attempted⟩
    rcases inductionHypothesis middle with ⟨after, rest, performs⟩
    refine ⟨after, ?_, .close attempted performs⟩
    rw [bound, List.map_cons, List.forM]
    refine (bind_of_ran (ignoring_of_attempt attempted)).trans ?_
    exact rest

/-- The hosts that are still to be connected continue the course of those that are. -/
theorem connectFrom_course {made : List (Host × ε)}
    (distinct : ((made.map Prod.fst).map Host.name).Nodup) (hosts : List Host)
    (before : Exchange σ) :
    ∃ deeds outcome after, connector.connectFrom (bound made) hosts before = .ok outcome after ∧
      connector.Performs before deeds after ∧
      Course (made.map Prod.fst ++ hosts) (made.map Deed.made ++ deeds) outcome := by
  induction hosts generalizing made before with
  | nil =>
    refine ⟨[], _, before, rfl, .nothing before, ?_⟩
    rw [List.append_nil, List.append_nil]
    exact .all distinct
  | cons host later inductionHypothesis =>
    have taken : (bound made).contains host.name = true ↔
        host.name ∈ (made.map Prod.fst).map Host.name := by
      rw [← keys_bound, Table.mem_keys, Table.contains]
    rw [connectFrom]
    by_cases present : host.name ∈ (made.map Prod.fst).map Host.name
    · rcases connector.closeAll_performs made before with ⟨after, closed, performs⟩
      refine ⟨_, _, after, ?_, performs, .repeated distinct present⟩
      rw [if_pos (taken.mpr present), bind_of_ran closed]
      rfl
    · have absent : host.name ∉ (bound made).keys := by rwa [keys_bound]
      rw [if_neg (mt taken.mp present)]
      rcases attempt_cases (connector.connect host) before with
        ⟨endpoint, middle, -, attempted⟩ | ⟨fault, middle, -, attempted⟩
      · rw [bind_of_ran attempted]
        have extended :
            (bound made).set host.name endpoint = bound (made ++ [(host, endpoint)]) := by
          rw [Table.set_of_not_mem endpoint absent, bound, bound, List.map_append]
          rfl
        have stillDistinct :
            (((made ++ [(host, endpoint)]).map Prod.fst).map Host.name).Nodup := by
          rw [List.map_append, List.map_append, List.nodup_append]
          refine ⟨distinct, List.pairwise_singleton _ _, ?_⟩
          rintro name among other last rfl
          exact present (List.mem_singleton.mp last ▸ among)
        rcases inductionHypothesis stillDistinct middle with
          ⟨deeds, outcome, after, ran, performs, course⟩
        refine ⟨.connect host (.ok endpoint) :: deeds, outcome, after, ?_,
          .connect attempted performs, ?_⟩
        · rw [← extended] at ran
          exact ran
        · simpa [Deed.made] using course
      · rcases connector.closeAll_performs made middle with ⟨after, closed, performs⟩
        refine ⟨.connect host (.error fault) :: made.map Deed.undone, _, after, ?_,
          .connect attempted performs, .failed distinct present⟩
        rw [bind_of_ran attempted]
        dsimp only
        rw [bind_of_ran closed]
        rfl

theorem connectAll_course (hosts : List Host) (before : Exchange σ) :
    ∃ deeds outcome after, connector.connectAll hosts before = .ok outcome after ∧
      connector.Performs before deeds after ∧ Course hosts deeds outcome := by
  have none : (([] : List (Host × ε)).map Prod.fst).map Host.name = [] := rfl
  exact connector.connectFrom_course (none ▸ List.nodup_nil) hosts before

end Connector

/-! ## Fleets -/

section Fleets

variable (peers : Peers σ) (connect : Host → Action σ Unit)

theorem closeAll_table (fleet : Fleet) :
    (daemons peers connect).closeAll fleet.table = fleet.close peers := by
  unfold Connector.closeAll Fleet.close Fleet.table
  induction fleet.hosts with
  | nil => rfl
  | cons host later inductionHypothesis =>
    rw [List.map_cons, List.forM, inductionHypothesis]
    rfl

/-- To be connected to a daemon is to hold its host. -/
theorem attempt_connect (host : Host) :
    attempt ((daemons peers connect).connect host) =
      attempt (connect host) >>= fun outcome => pure (outcome.map fun _ => host) := by
  funext before
  change attempt (EStateM.bind (connect host) _) before = EStateM.bind (attempt _) _ before
  rw [attempt, EStateM.bind, EStateM.bind, attempt]
  cases connect host before <;> rfl

/-- A fleet is made up of the connections to its daemons. -/
theorem table_connectFrom (fleet : Fleet) (hosts : List Host) :
    Fleet.table <$> connectFrom peers connect fleet hosts =
      (daemons peers connect).connectFrom fleet.table hosts >>= ofExcept Unreached.fault := by
  induction hosts generalizing fleet with
  | nil => rfl
  | cons host later inductionHypothesis =>
    have names : fleet.table.keys = fleet.names := by
      simp [Fleet.table, Fleet.names, Table.keys]
    have taken : fleet.table.contains host.name = true ↔ host.name ∈ fleet.names := by
      rw [← names, Table.mem_keys, Table.contains]
    rw [connectFrom, Connector.connectFrom]
    by_cases present : host.name ∈ fleet.names
    · have refused : fleet.add? host = none := dif_pos present
      rw [refused, if_pos (taken.mpr present), closeAll_table, map_bind, bind_assoc]
      rfl
    · rcases add?_of_not_mem present with ⟨extended, added, behind⟩
      have table : extended.table = fleet.table.set host.name host := by
        rw [Table.set_of_not_mem host (by rwa [names]), Fleet.table, behind, List.map_append]
        rfl
      rw [added, if_neg (mt taken.mp present), attempt_connect, map_bind, bind_assoc, bind_assoc]
      congr 1
      funext outcome
      rw [pure_bind]
      cases outcome with
      | ok value =>
        have rest := inductionHypothesis extended
        rw [table] at rest
        exact rest
      | error fault =>
        dsimp only [Except.map]
        rw [closeAll_table, map_bind, bind_assoc]
        rfl

theorem table_connectAll (options : Options) (hosts : List Host) :
    Fleet.table <$> connectAll peers options hosts =
      (daemons peers (connectHost peers options)).connectAll hosts >>= ofExcept Unreached.fault :=
  table_connectFrom peers (connectHost peers options) .empty hosts

end Fleets

theorem Course.connected {hosts : List Host} {deeds : List (Deed ε)}
    {outcome : Except Unreached (Table String ε)} (course : Course hosts deeds outcome)
    {endpoints : Table String ε} (succeeded : outcome = .ok endpoints) :
    endpoints.keys = hosts.map Host.name ∧ ∀ endpoint, Deed.close endpoint ∉ deeds := by
  cases course with
  | all distinct =>
    cases succeeded
    refine ⟨keys_bound _, fun endpoint member => ?_⟩
    rcases List.mem_map.mp member with ⟨entry, -, same⟩
    cases same
  | repeated distinct taken => cases succeeded
  | failed distinct absent => cases succeeded

/-- Whatever connections are and whatever comes of making them and giving them up: either
every host has its connection under its name, in order, and none was given up, or the
first host that repeats a name or cannot be connected is named with its fault, each
connection made before it was given up once, and nothing was tried with the hosts behind
it.  Nothing else is raised.  Connecting a fleet is of this kind. -/
theorem Connector.all_or_nothing (connector : Connector σ ε) (hosts : List Host)
    (before : Exchange σ) :
    (∃ deeds outcome after, connector.connectAll hosts before = .ok outcome after ∧
      connector.Performs before deeds after ∧ Course hosts deeds outcome ∧
      ∀ endpoints, outcome = .ok endpoints → endpoints.keys = hosts.map Host.name ∧
        ∀ endpoint, Deed.close endpoint ∉ deeds) ∧
    ∀ (peers : Peers σ) (options : Options),
      Fleet.table <$> Connect.connectAll peers options hosts =
        (daemons peers (connectHost peers options)).connectAll hosts >>=
          ofExcept Unreached.fault := by
  constructor
  · rcases connector.connectAll_course hosts before with
      ⟨deeds, outcome, after, ran, performs, course⟩
    exact ⟨deeds, outcome, after, ran, performs, course, fun _ => course.connected⟩
  · intro peers options
    exact table_connectAll peers options hosts

end Connect
end ContainerFleet
