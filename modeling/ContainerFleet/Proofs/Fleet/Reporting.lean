import ContainerFleet.Proofs.Fleet.Gathering
import ContainerFleet.Proofs.Outcome

/-!
# Every host reports once

`Gathering` says where the outcomes are at each moment.  From it follows what a caller
who asks all hosts can rely on, in whatever order they finish: a worker that has its
outcome never waits for room, the mark is met behind all reports and not before, nothing
is ever stuck, and in the end each host is among the answers or among the faults, once.

That no worker waits is a matter of counting and not of the queue, which is bounded: the
mark does wait while all reports are still in it.  That a gathering ends needs no
assumption of fairness, because every move brings it nearer to its end.
-/

namespace ContainerFleet
namespace Fleet

open Daemon

variable {α : Type}

/-- The hosts beside what asking each of them comes to. -/
def reports (fleet : Fleet) (outcome : Host → Except Fault α) :
    List (String × Except Fault α) :=
  fleet.hosts.map fun host => (host.name, outcome host)

theorem names_reports (fleet : Fleet) (outcome : Host → Except Fault α) :
    (fleet.reports outcome).map Prod.fst = fleet.names := by
  rw [reports, List.map_map]
  rfl

theorem length_reports (fleet : Fleet) (outcome : Host → Except Fault α) :
    (fleet.reports outcome).length = fleet.hosts.length :=
  List.length_map _

variable {fleet : Fleet} {outcome : Host → Except Fault α}

theorem distinct_reports : ((fleet.reports outcome).map Prod.fst).Nodup := by
  rw [names_reports]
  exact fleet.distinct

theorem mem_reports {host : Host} (member : host ∈ fleet.hosts) (result : Except Fault α) :
    (host.name, result) ∈ fleet.reports outcome ↔ outcome host = result := by
  have own : (host.name, outcome host) ∈ fleet.reports outcome :=
    List.mem_map.mpr ⟨host, member, rfl⟩
  constructor
  · intro reported
    have found := (Table.get?_eq_some_iff distinct_reports).mpr reported
    rw [(Table.get?_eq_some_iff distinct_reports).mpr own] at found
    exact Option.some.inj found
  · rintro rfl
    exact own

/-! ## What was gathered, by host -/

/-- The answer in a report. -/
def answer? (report : String × Except Fault α) : Option (String × α) :=
  match report.2 with
  | .ok value => some (report.1, value)
  | .error _ => none

/-- The fault in a report. -/
def fault? (report : String × Except Fault α) : Option (String × Fault) :=
  match report.2 with
  | .ok _ => none
  | .error fault => some (report.1, fault)

namespace Gathered

theorem mem_faults (gathered : Gathered α) (name : String) (fault : Fault) :
    (name, fault) ∈ gathered.faults ↔ (name, .error fault) ∈ gathered.outcomes := by
  rw [outcomes, List.mem_append, List.mem_map, List.mem_map]
  constructor
  · intro member
    exact .inr ⟨_, member, rfl⟩
  · rintro (⟨_, _, wrong⟩ | ⟨⟨_, _⟩, member, same⟩)
    · cases wrong
    · cases same
      exact member

theorem names_outcomes (gathered : Gathered α) :
    gathered.outcomes.map Prod.fst = gathered.results.keys ++ gathered.faults.map Prod.fst := by
  rw [outcomes, List.map_append, List.map_map, List.map_map]
  rfl

theorem length_outcomes (gathered : Gathered α) : gathered.outcomes.length = gathered.total := by
  rw [outcomes, List.length_append, List.length_map, List.length_map]
  rfl

theorem answers_outcomes (gathered : Gathered α) :
    gathered.outcomes.filterMap answer? = gathered.results := by
  have answers : ∀ results : Table String α,
      (results.map fun entry => (entry.1, Except.ok (ε := Fault) entry.2)).filterMap answer? =
        results := by
    intro results
    rw [List.filterMap_map]
    exact List.filterMap_some
  have faults : ∀ faults : List (String × Fault),
      (faults.map fun entry => (entry.1, Except.error (α := α) entry.2)).filterMap answer? =
        [] := by
    intro faults
    rw [List.filterMap_map]
    exact List.filterMap_eq_nil_iff.mpr fun _ _ => rfl
  rw [outcomes, List.filterMap_append, answers, faults, List.append_nil]

theorem faults_outcomes (gathered : Gathered α) :
    gathered.outcomes.filterMap fault? = gathered.faults := by
  have answers : ∀ results : Table String α,
      (results.map fun entry => (entry.1, Except.ok (ε := Fault) entry.2)).filterMap fault? =
        [] := by
    intro results
    rw [List.filterMap_map]
    exact List.filterMap_eq_nil_iff.mpr fun _ _ => rfl
  have faults : ∀ faults : List (String × Fault),
      (faults.map fun entry => (entry.1, Except.error (α := α) entry.2)).filterMap fault? =
        faults := by
    intro faults
    rw [List.filterMap_map]
    exact List.filterMap_some
  rw [outcomes, List.filterMap_append, answers, faults, List.nil_append]

/-- Gatherings of the same outcomes agree, in whatever order these came. -/
theorem agree_of_perm {left right : Gathered α} (same : left.outcomes.Perm right.outcomes) :
    left.Agree right := by
  rw [Agree, ← left.answers_outcomes, ← right.answers_outcomes, ← left.faults_outcomes,
    ← right.faults_outcomes]
  exact ⟨same.filterMap answer?, same.filterMap fault?⟩

theorem outcomes_ofOutcomes (reports : List (String × Except Fault α)) :
    (ofOutcomes reports).outcomes.Perm reports := by
  induction reports with
  | nil => exact .refl _
  | cons report later inductionHypothesis =>
    rcases report with ⟨name, result⟩
    cases result with
    | ok value => exact inductionHypothesis.cons _
    | error fault =>
      refine .trans ?_ (inductionHypothesis.cons _)
      rw [ofOutcomes, outcomes, outcomes]
      exact List.perm_middle

/-- Each host of the fleet is among the answers with its value or among the faults with its
fault, and nothing else is there. -/
structure Accounts (fleet : Fleet) (outcome : Host → Except Fault α)
    (gathered : Gathered α) : Prop where
  /-- As the names of a fleet are distinct, no host is in both places, or twice in one. -/
  names : (gathered.results.keys ++ gathered.faults.map Prod.fst).Perm fleet.names
  answered : ∀ host ∈ fleet.hosts, ∀ value,
    gathered.results.get? host.name = some value ↔ outcome host = .ok value
  failed : ∀ host ∈ fleet.hosts, ∀ fault,
    (host.name, fault) ∈ gathered.faults ↔ outcome host = .error fault
  total : gathered.total = fleet.hosts.length

theorem accounts_of_perm {gathered : Gathered α}
    (complete : gathered.outcomes.Perm (fleet.reports outcome)) :
    gathered.Accounts fleet outcome where
  names := by
    rw [← names_outcomes, ← names_reports fleet outcome]
    exact complete.map Prod.fst
  answered := by
    intro host member value
    have distinct : gathered.results.keys.Nodup :=
      gathered.keys_results.nodup ((complete.map Prod.fst).nodup_iff.mpr distinct_reports)
    rw [Table.get?_eq_some_iff distinct, mem_results, complete.mem_iff, mem_reports member]
  failed := by
    intro host member fault
    rw [mem_faults, complete.mem_iff, mem_reports member]
  total := by
    rw [← length_outcomes, complete.length_eq, length_reports]

end Gathered

/-- Asking the hosts one after the other gathers what each of them comes to. -/
theorem gatherFrom_of_outcomes {σ : Type} {operation : Host → Action σ α} {hosts : List Host}
    (comes : ∀ host ∈ hosts, ∀ before, ∃ after,
      attempt (operation host) before = .ok (outcome host) after) (before : Exchange σ) :
    ∃ after, gatherFrom operation hosts before =
      .ok (.ofOutcomes (hosts.map fun host => (host.name, outcome host))) after := by
  induction hosts generalizing before with
  | nil => exact ⟨before, rfl⟩
  | cons host later inductionHypothesis =>
    rcases List.forall_mem_cons.mp comes with ⟨here, laterCome⟩
    rcases here before with ⟨middle, asked⟩
    rcases inductionHypothesis laterCome middle with ⟨after, rest⟩
    refine ⟨after, ?_⟩
    rw [gatherFrom, bind_of_ran asked, bind_of_ran rest]
    rfl

/-! ## Every move brings the end nearer -/

namespace Gathering
namespace State

variable {outcomes reports : List (String × Except Fault α)} {capacity : Nat}
  {before after state : State α}

/-- How many moves are still to come. -/
def ahead (state : State α) : Nat :=
  2 * state.working.length + state.queue.length + 2 * (!state.marked).toNat

theorem ahead_put {parcel : Parcel α} (put : before.put? capacity parcel = some after) :
    before.queue.length < capacity ∧ after.ahead = before.ahead + 1 := by
  rw [put?] at put
  split at put
  case isFalse => cases put
  case isTrue room =>
    cases put
    refine ⟨room, ?_⟩
    simp only [ahead, List.length_append, List.length_singleton]
    omega

theorem ahead_step {move : Move} (stepped : before.step? capacity move = some after) :
    after.ahead + 1 = before.ahead := by
  cases move with
  | report name =>
    rw [step?, report?] at stepped
    split at stepped
    case h_2 => cases stepped
    case h_1 outcome found =>
      have fewer := (perm_of_lookup found).length_eq
      have put := (ahead_put stepped).2
      rw [List.length_cons] at fewer
      rw [put, ahead, ahead]
      dsimp only
      omega
  | mark =>
    rw [step?, mark?] at stepped
    split at stepped
    case isFalse => cases stepped
    case isTrue ready =>
      rw [Bool.and_eq_true, Bool.not_eq_true'] at ready
      have put := (ahead_put stepped).2
      rw [put, ahead, ahead, ready.2]
      rfl
  | collect =>
    rw [step?, collect?] at stepped
    split at stepped
    case h_2 => cases stepped
    case h_1 parcel later unfinished taken =>
      cases stepped
      rw [ahead, ahead, taken, List.length_cons]
      cases parcel <;> simp only [receive] <;> omega

theorem ahead_run {moves : List Move} (ran : run? capacity before moves = some after) :
    moves.length + after.ahead = before.ahead := by
  induction moves generalizing before with
  | nil =>
    cases ran
    exact Nat.zero_add _
  | cons move later inductionHypothesis =>
    rcases Option.bind_eq_some_iff.mp ran with ⟨middle, stepped, rest⟩
    have nearer := ahead_step stepped
    have further := inductionHypothesis rest
    rw [List.length_cons]
    omega

/-! ## Nobody waits in vain -/

/-- The reports on the way leave room for those that are still to come. -/
theorem Kept.room (kept : Kept outcomes state reports) (pending : state.marked = false) :
    state.queue.length + state.working.length ≤ outcomes.length := by
  have counted := kept.complete.length_eq
  rw [List.length_append, List.length_append] at counted
  rw [kept.queue_of_pending pending, List.length_map]
  omega

theorem Kept.pending_of_working (kept : Kept outcomes state reports)
    {report : String × Except Fault α} (member : report ∈ state.working) :
    state.marked = false := by
  rw [Bool.eq_false_iff]
  intro marked
  rw [kept.idle marked] at member
  cases member

theorem isSome_put {parcel : Parcel α} (room : state.queue.length < capacity) :
    (state.put? capacity parcel).isSome = true := by
  rw [put?, if_pos room]
  rfl

/-- A worker that has not reported finds room, and can report. -/
theorem Kept.reports_freely (kept : Kept outcomes state reports)
    {report : String × Except Fault α} (member : report ∈ state.working) :
    state.queue.length < outcomes.length ∧
      (state.step? outcomes.length (.report report.1)).isSome = true := by
  have room : state.queue.length < outcomes.length := by
    have counted := kept.room (kept.pending_of_working member)
    have some_working := List.length_pos_of_mem member
    omega
  refine ⟨room, ?_⟩
  rw [step?, report?]
  cases found : state.working.lookup report.1 with
  | some result => exact isSome_put room
  | none =>
    have absent := List.lookup_eq_none_iff.mp found report member
    rw [bne_self_eq_false] at absent
    cases absent

/-- A collector that has the mark before it has everything else behind it. -/
theorem Kept.behind_mark (kept : Kept outcomes state reports) {later : List (Parcel α)}
    (next : state.queue = .allReported :: later) :
    later = [] ∧ state.working = [] ∧ state.gathered.outcomes.Perm outcomes := by
  have queue := kept.queue
  have complete := kept.complete
  rw [next] at queue
  cases reports with
  | cons report reports => cases queue
  | nil =>
    rw [List.map_nil, List.nil_append] at queue
    split at queue
    case isFalse => cases queue
    case isTrue marked =>
      rw [Bool.and_eq_true] at marked
      have idle := kept.idle marked.1
      rw [idle, List.append_nil, List.append_nil] at complete
      exact ⟨(List.cons.inj queue).2, idle, complete⟩

/-- Where there are hosts, a collector that has not met the mark can go on or somebody
else can. -/
theorem Kept.goes_on (kept : Kept outcomes state reports) (some_host : outcomes ≠ [])
    (unfinished : state.finished = false) :
    ∃ move, (state.step? outcomes.length move).isSome = true := by
  cases queued : state.queue with
  | cons parcel later =>
    refine ⟨.collect, ?_⟩
    rw [step?, collect?, unfinished, queued]
    rfl
  | nil =>
    cases working : state.working with
    | cons report later =>
      have member : report ∈ state.working := working ▸ List.mem_cons_self
      exact ⟨.report report.1, (kept.reports_freely member).2⟩
    | nil =>
      cases marked : state.marked with
      | false =>
        refine ⟨.mark, ?_⟩
        rw [step?, mark?, working, marked]
        apply isSome_put
        rw [queued]
        exact List.length_pos_iff.mpr some_host
      | true =>
        -- The mark would still be in the queue.
        have queue := kept.queue
        rw [queued, marked, unfinished] at queue
        exact absurd queue.symm (List.append_ne_nil_of_right_ne_nil _ (List.cons_ne_nil _ _))

/-- Where there are no hosts, nothing happens. -/
theorem Arises.still (arises : Arises ([] : List (String × Except Fault α)) state) :
    state = start [] := by
  refine arises.keeps (fun state => state = start []) rfl ?_
  intro before after move atStart stepped
  rw [atStart] at stepped
  cases move <;> cases stepped

end State

/-! ## The gathering of a fleet -/

open State in
/-- Whatever the hosts answer and in whatever order they finish, each report finds room,
the mark is met last, the gathering comes to its end, and then it holds every host once
with its own outcome: up to order it is what asking one host after the other gathers. -/
theorem every_host_reports_once (fleet : Fleet) (outcome : Host → Except Fault α)
    {moves : List Move} {state : State α}
    (ran : run? fleet.hosts.length (start (fleet.reports outcome)) moves = some state) :
    (∀ report ∈ state.working, state.queue.length < fleet.hosts.length ∧
      (state.step? fleet.hosts.length (.report report.1)).isSome = true) ∧
    (∀ later, state.queue = .allReported :: later →
      later = [] ∧ state.working = [] ∧ state.gathered.Accounts fleet outcome) ∧
    (state.finished = false →
      ∃ move, (state.step? fleet.hosts.length move).isSome = true) ∧
    moves.length ≤ 2 * fleet.hosts.length + 2 ∧
    (state.finished = true → state.gathered.Accounts fleet outcome ∧
      state.gathered.Agree (.ofOutcomes (fleet.reports outcome))) ∧
    (∀ (σ : Type) (operation : Host → Action σ α),
      (∀ host ∈ fleet.hosts, ∀ before, ∃ after,
        attempt (operation host) before = .ok (outcome host) after) →
      ∀ before, ∃ after, fleet.gather operation before =
        .ok (.ofOutcomes (fleet.reports outcome)) after) ∧
    (fleet.hosts = [] → state.finished = true ∧ state.gathered = .empty) := by
  have arises : Arises (fleet.reports outcome) state := by
    refine ⟨moves, ?_⟩
    rw [length_reports]
    exact ran
  rcases arises.kept with ⟨reports, kept⟩
  have freely := fun report (member : report ∈ state.working) => kept.reports_freely member
  have nobody : fleet.hosts = [] → state = start [] := by
    intro none_there
    rw [Fleet.reports, none_there, List.map_nil] at arises
    exact arises.still
  rw [length_reports] at freely
  refine ⟨freely, ?_, ?_, ?_, ?_, ?_, ?_⟩
  · intro later next
    rcases kept.behind_mark next with ⟨last, idle, complete⟩
    exact ⟨last, idle, Gathered.accounts_of_perm complete⟩
  · intro unfinished
    rw [← length_reports fleet outcome]
    refine kept.goes_on ?_ unfinished
    intro none_there
    rw [nobody (List.map_eq_nil_iff.mp none_there)] at unfinished
    cases unfinished
  · have counted := ahead_run ran
    have atStart : (start (fleet.reports outcome)).ahead ≤ 2 * fleet.hosts.length + 2 := by
      have marks : (!(fleet.reports outcome).isEmpty).toNat ≤ 1 := Bool.toNat_le _
      rw [start, ahead, length_reports, List.length_nil]
      dsimp only
      omega
    omega
  · intro finished
    have complete := arises.complete finished
    refine ⟨Gathered.accounts_of_perm complete, Gathered.agree_of_perm ?_⟩
    exact complete.trans (Gathered.outcomes_ofOutcomes _).symm
  · intro σ operation comes before
    exact gatherFrom_of_outcomes comes before
  · intro none_there
    rw [nobody none_there]
    exact ⟨rfl, rfl⟩

/-- Two hosts, of which the second reports first and fails. -/
theorem second_reports_first :
    ∃ (fleet : Fleet) (outcome : Host → Except Fault Nat) (state : State Nat),
      fleet.names = ["a", "b"] ∧
      State.run? fleet.hosts.length (.start (fleet.reports outcome))
        [.report "b", .report "a", .collect, .mark, .collect, .collect] = some state ∧
      state.finished = true ∧ state.gathered.faults = [("b", .hostNotFound "b")] ∧
      state.gathered.Accounts fleet outcome := by
  let fleet : Fleet := ⟨[⟨"a", "unix:///a"⟩, ⟨"b", "unix:///b"⟩], by decide⟩
  let outcome : Host → Except Fault Nat := fun host =>
    if host.name = "a" then .ok 7 else .error (.hostNotFound host.name)
  have ran : State.run? fleet.hosts.length (.start (fleet.reports outcome))
      [.report "b", .report "a", .collect, .mark, .collect, .collect] =
        some ⟨[], true, [], ⟨[("a", 7)], [("b", .hostNotFound "b")]⟩, true⟩ := rfl
  have once := every_host_reports_once fleet outcome ran
  exact ⟨fleet, outcome, _, rfl, ran, rfl, rfl, (once.2.2.2.2.1 rfl).1⟩

end Gathering
end Fleet
end ContainerFleet
