import ContainerFleet.Proofs.Alert.Memory
import ContainerFleet.Proofs.Alert.View

/-!
# Runs of a monitor

A run is any number of scans by one monitor.  Nothing is assumed of what happens
between two scans: the daemons may answer the next one in any way.  Through all of
them the monitor remembers of each host what its last answered listing showed.
-/

namespace ContainerFleet
namespace Alert

open Daemon

variable {σ : Type} {peers : Peers σ} {fleet : Fleet} {settings : AlertSettings}

/-- One scan of a run: what it saw and which alerts it raised. -/
structure Scan where
  view : View
  alerts : List Alert

/-- The scans that a monitor made since it was set up, and the monitor after them. -/
inductive Run (peers : Peers σ) (fleet : Fleet) (settings : AlertSettings) :
    List Scan → Monitor → Prop
  | start {monitor : Monitor} : Monitor.ofSettings settings = .ok monitor →
      Run peers fleet settings [] monitor
  | scan {scans : List Scan} {monitor next : Monitor} {now : Int} {before after : Exchange σ}
      {view : View} {alerts : List Alert} : Run peers fleet settings scans monitor →
      look peers fleet before = .ok view after →
      monitor.checkOnce peers fleet now before = .ok (next, alerts) after →
      Run peers fleet settings (scans ++ [⟨view, alerts⟩]) next

/-- The last listing that a host answered. -/
def lastListing (views : List View) (host : String) : Option (List Container) :=
  (views.filterMap fun view => view.listings.get? host).getLast?

theorem lastListing_snoc (views : List View) (view : View) (host : String) :
    lastListing (views ++ [view]) host = (view.listings.get? host).or (lastListing views host) := by
  rw [lastListing, List.filterMap_append, List.getLast?_append]
  cases listed : view.listings.get? host <;> simp [listed, lastListing]

namespace Memory

theorem compare_running (memory : Memory) (settings : AlertSettings) (host name : String)
    (usage : Stats.Usage) (measure : Measure) :
    (memory.compare settings host name usage measure).1.running = memory.running := by
  rw [compare]
  split
  · rfl
  · split <;> rfl

/-- Readings do not touch what is remembered of listings. -/
theorem takeSweeps_running (settings : AlertSettings) (memory : Memory)
    (sweeps : List (String × List Container × Except Fault (List Stats.Usage))) :
    (takeSweeps settings memory sweeps).1.running = memory.running := by
  have one : ∀ (host : String) (containers : List Container) (usages : List Stats.Usage)
      (memory : Memory),
      (takeSweep settings host containers memory usages).1.running = memory.running := by
    intro host containers usages
    induction usages with
    | nil => exact fun _ => rfl
    | cons usage later inductionHypothesis =>
      intro memory
      rw [takeSweep]
      dsimp only
      rw [inductionHypothesis, takeUsage]
      dsimp only
      rw [compare_running, compare_running]
  induction sweeps generalizing memory with
  | nil => rfl
  | cons sweep later inductionHypothesis =>
    rcases sweep with ⟨host, containers, outcome⟩
    cases outcome with
    | error fault => exact inductionHypothesis memory
    | ok usages =>
      rw [takeSweeps]
      dsimp only
      rw [inductionHypothesis, one]

end Memory

/-- A memory holds of every container what the last answered listing of its host
shows, and nothing where that listing does not have it. -/
def Remembers (memory : Memory) (views : List View) : Prop :=
  ∀ host id, memory.running.get? (host, id) = (lastListing views host).bind (stateIn · id)

theorem remembers_empty : Remembers .empty [] :=
  fun _ _ => rfl

theorem Remembers.take {memory : Memory} {views : List View} (remembers : Remembers memory views)
    {view : View} (sound : view.Sound) (settings : AlertSettings) :
    Remembers (view.take settings memory).1 (views ++ [view]) := by
  intro host id
  rw [View.take]
  dsimp only
  rw [Memory.takeSweeps_running, Memory.takeListings_running memory sound.distinct,
    lastListing_snoc]
  cases view.listings.get? host with
  | none =>
    rw [Option.none_or]
    exact remembers host id
  | some containers => rfl

theorem Remembers.isSome {memory : Memory} {views : List View} (remembers : Remembers memory views)
    (host id : String) : (memory.running.get? (host, id)).isSome =
      (lastListing views host).any fun listed => listed.any (·.id = id) := by
  rw [remembers host id]
  cases lastListing views host with
  | none => rfl
  | some listed => exact isSome_stateIn listed id

theorem sound_of_look {before after : Exchange σ} {view : View}
    (seen : look peers fleet before = .ok view after) : view.Sound := by
  rcases look_ok peers fleet before with ⟨other, last, otherSeen, sound⟩
  rw [seen] at otherSeen
  cases otherSeen
  exact sound

/-- Every scan of a run saw what can be seen, and thought about it once. -/
theorem checkOnce_cases {monitor next : Monitor} {now : Int} {before after : Exchange σ}
    {view : View} {alerts : List Alert}
    (seen : look peers fleet before = .ok view after)
    (checked : monitor.checkOnce peers fleet now before = .ok (next, alerts) after) :
    view.Sound ∧ next = (monitor.after now view).1 ∧ alerts = (monitor.after now view).2 := by
  rw [checkOnce_of_look peers seen] at checked
  cases checked
  exact ⟨sound_of_look seen, rfl, rfl⟩

/-- A scan always comes to an end. -/
theorem checkOnce_ok (monitor : Monitor) (now : Int) (before : Exchange σ) :
    ∃ view next alerts after, look peers fleet before = .ok view after ∧
      monitor.checkOnce peers fleet now before = .ok (next, alerts) after := by
  rcases look_ok peers fleet before with ⟨view, after, seen, -⟩
  exact ⟨view, _, _, after, seen, checkOnce_of_look peers seen⟩

/-- After any scans the monitor remembers what they showed. -/
theorem Run.remembers {scans : List Scan} {monitor : Monitor}
    (run : Run peers fleet settings scans monitor) :
    monitor.settings = settings ∧ Remembers monitor.memory (scans.map Scan.view) := by
  induction run with
  | @start monitor fresh =>
    rcases ok_of_bind fresh with ⟨history, -, built⟩
    cases built
    exact ⟨rfl, remembers_empty⟩
  | @scan scans monitor next now before after view alerts _ seen checked inductionHypothesis =>
    rcases inductionHypothesis with ⟨rfl, remembers⟩
    rcases checkOnce_cases seen checked with ⟨sound, rfl, rfl⟩
    rw [List.map_append, List.map_singleton]
    exact ⟨rfl, remembers.take sound monitor.settings⟩

end Alert
end ContainerFleet
