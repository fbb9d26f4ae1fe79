import ContainerFleet.Alert.Monitor
import ContainerFleet.Proofs.Outcome
import ContainerFleet.Proofs.Stats.Usage

/-!
# What a scan sees

A scan first asks the hosts and then thinks about what they answered.  Asking
never fails as a whole: a host that fails is left out of what was seen.  What
the monitor remembers and raises afterwards depends on nothing but what was seen
and what it remembered before.
-/

namespace ContainerFleet
namespace Alert

open Daemon

variable {σ : Type} (peers : Peers σ)

/-- The listings of the hosts that answered, and for those of them on which a
container runs what came of reading their figures. -/
structure View where
  listings : Table String (List Container)
  sweeps : List (String × List Container × Except Fault (List Stats.Usage))

/-- The part of a scan that asks the hosts. -/
def look (fleet : Fleet) : Action σ View := do
  let listing ← fleet.gather (listContainers peers · true)
  let sweeps ← sweepAll peers fleet listing.results
  return ⟨listing.results, sweeps⟩

namespace View

/-- The part of a scan that remembers and gives notice. -/
def take (view : View) (settings : AlertSettings) (memory : Memory) : Memory × List Notice :=
  let (memory, changes) := memory.takeListings view.listings
  let (memory, crossings) := Memory.takeSweeps settings memory view.sweeps
  (memory, changes ++ crossings)

/-- No host is listed twice, and all figures can be compared. -/
structure Sound (view : View) : Prop where
  distinct : view.listings.keys.Nodup
  comparable : ∀ sweep ∈ view.sweeps, ∀ usages, sweep.2.2 = .ok usages →
    ∀ usage ∈ usages, usage.Comparable

end View

/-! ## Asking the hosts -/

/-- Asking each of some hosts never fails, and the names of those that answered
are among theirs. -/
theorem gatherFrom_ok {α : Type} (operation : Host → Action σ α) (hosts : List Host)
    (before : Exchange σ) :
    ∃ gathered after, Fleet.gatherFrom operation hosts before = .ok gathered after ∧
      (gathered.results.keys).Sublist (hosts.map Host.name) := by
  induction hosts generalizing before with
  | nil => exact ⟨_, _, rfl, List.nil_sublist _⟩
  | cons host later inductionHypothesis =>
    rcases attempt_ok (operation host) before with ⟨outcome, middle, attempted⟩
    rcases inductionHypothesis middle with ⟨rest, after, gathered, among⟩
    refine ⟨rest.cons host.name outcome, after, ?_, ?_⟩
    · rw [Fleet.gatherFrom, bind_of_ran attempted, bind_of_ran gathered]
      rfl
    · cases outcome with
      | ok value => exact among.cons_cons host.name
      | error fault => exact among.cons host.name

theorem comparable_of_readOnce {host : Host} {id : String} {usage : Stats.Usage}
    {before after : Exchange σ} (read : Stats.readOnce peers host id before = .ok usage after) :
    usage.Comparable := by
  rw [Stats.readOnce] at read
  rcases ran_of_bind read with ⟨document, middle, -, read⟩
  have figures := ok_of_ofExcept read
  rw [Stats.figures] at figures
  cases derived : Stats.usageOf document id host.name with
  | error error =>
    rw [derived] at figures
    cases figures
  | ok found =>
    rw [derived] at figures
    cases figures
    exact (Stats.of_usageOf derived).2.2

theorem comparable_of_sweepFrom {host : Host} {containers : List Container}
    {usages : List Stats.Usage} {before after : Exchange σ}
    (swept : Stats.sweepFrom peers host containers before = .ok usages after) :
    ∀ usage ∈ usages, usage.Comparable := by
  induction containers generalizing usages before with
  | nil =>
    cases swept
    intro usage member
    cases member
  | cons container later inductionHypothesis =>
    rw [Stats.sweepFrom] at swept
    split at swept
    · rcases ran_of_bind swept with ⟨outcome, middle, attempted, swept⟩
      rcases ran_of_bind swept with ⟨rest, last, later_swept, returned⟩
      cases returned
      intro usage member
      rcases List.mem_append.mp member with member | member
      · rcases attempt_cases (Stats.readOnce peers host container.id) before with
          ⟨value, _, read, same⟩ | ⟨fault, _, -, same⟩
        · rw [attempted] at same
          cases same
          rcases List.mem_singleton.mp member with rfl
          exact comparable_of_readOnce peers read
        · rw [attempted] at same
          cases same
          cases member
      · exact inductionHypothesis later_swept usage member
    · exact inductionHypothesis swept

/-- Reading the figures of some hosts never fails, and the figures can be
compared. -/
theorem sweepAll_ok (fleet : Fleet) (listings : Table String (List Container))
    (before : Exchange σ) :
    ∃ sweeps after, sweepAll peers fleet listings before = .ok sweeps after ∧
      ∀ sweep ∈ sweeps, ∀ usages, sweep.2.2 = .ok usages →
        ∀ usage ∈ usages, usage.Comparable := by
  induction listings generalizing before with
  | nil => exact ⟨[], before, rfl, fun _ member => nomatch member⟩
  | cons entry later inductionHypothesis =>
    rcases entry with ⟨name, containers⟩
    rw [sweepAll]
    split
    · obtain ⟨outcome, middle, attempted, comparable⟩ : ∃ outcome middle,
          attempt (fleet.onHost name (Stats.sweep peers)) before = .ok outcome middle ∧
            ∀ usages, outcome = .ok usages → ∀ usage ∈ usages, usage.Comparable := by
        rcases attempt_cases (fleet.onHost name (Stats.sweep peers)) before with
          ⟨usages, middle, swept, attempted⟩ | ⟨fault, middle, -, attempted⟩
        · refine ⟨_, middle, attempted, fun found same => ?_⟩
          cases same
          rw [Fleet.onHost] at swept
          rcases ran_of_bind swept with ⟨host, _, -, swept⟩
          rw [Stats.sweep] at swept
          rcases ran_of_bind swept with ⟨containers, _, -, swept⟩
          exact comparable_of_sweepFrom peers swept
        · exact ⟨_, middle, attempted, fun found same => nomatch same⟩
      rcases inductionHypothesis middle with ⟨rest, after, swept, restComparable⟩
      refine ⟨(name, containers, outcome) :: rest, after, ?_, ?_⟩
      · rw [bind_of_ran attempted, bind_of_ran swept]
        rfl
      · exact List.forall_mem_cons.mpr ⟨comparable, restComparable⟩
    · exact inductionHypothesis before

theorem look_ok (fleet : Fleet) (before : Exchange σ) :
    ∃ view after, look peers fleet before = .ok view after ∧ view.Sound := by
  rcases gatherFrom_ok (listContainers peers · true) fleet.hosts before with
    ⟨gathered, middle, listed, among⟩
  rcases sweepAll_ok peers fleet gathered.results middle with ⟨sweeps, after, swept, comparable⟩
  refine ⟨⟨gathered.results, sweeps⟩, after, ?_, among.nodup fleet.distinct, comparable⟩
  rw [look, Fleet.gather, bind_of_ran listed, bind_of_ran swept]
  rfl

/-! ## Thinking about what was seen -/

/-- A scan is asking and then thinking. -/
theorem scan_of_look {settings : AlertSettings} {fleet : Fleet} {memory : Memory} {view : View}
    {before after : Exchange σ} (seen : look peers fleet before = .ok view after) :
    scan peers settings fleet memory before = .ok (view.take settings memory) after := by
  rw [look] at seen
  rcases ran_of_bind seen with ⟨gathered, middle, listed, seen⟩
  rcases ran_of_bind seen with ⟨sweeps, last, swept, returned⟩
  cases returned
  rw [scan, bind_of_ran listed]
  dsimp only
  rw [bind_of_ran swept]
  rfl

/-- What a monitor becomes and raises by what a scan saw. -/
def Monitor.after (monitor : Monitor) (now : Int) (view : View) : Monitor × List Alert :=
  let (memory, notices) := view.take monitor.settings monitor.memory
  let alerts := number now monitor.issued notices
  ({ monitor with memory := memory }.record alerts, alerts)

/-- What an alert tells; its id and its time are left out. -/
def notice (alert : Alert) : Notice :=
  ⟨alert.kind, alert.containerId, alert.containerName, alert.host, alert.message, alert.value,
    alert.threshold⟩

/-- Giving ids and the time to notices changes nothing of what they tell. -/
theorem map_notice_number (now : Int) (issued : Nat) (notices : List Notice) :
    (Monitor.number now issued notices).map notice = notices := by
  induction notices generalizing issued with
  | nil => rfl
  | cons first later inductionHypothesis =>
    rw [Monitor.number, List.map_cons, inductionHypothesis]
    rfl

theorem checkOnce_of_look {monitor : Monitor} {fleet : Fleet} {now : Int} {view : View}
    {before after : Exchange σ} (seen : look peers fleet before = .ok view after) :
    monitor.checkOnce peers fleet now before = .ok (monitor.after now view) after := by
  rw [Monitor.checkOnce, bind_of_ran (scan_of_look peers seen)]
  rfl

end Alert
end ContainerFleet
