import ContainerFleet.Daemon.Script
import ContainerFleet.Proofs.Alert.Crossing
import ContainerFleet.Proofs.Alert.Memory
import ContainerFleet.Proofs.Alert.Run
import ContainerFleet.Proofs.Settings.Thresholds

/-!
# Threshold alerts follow the crossings

The monitor remembers which figures are above their threshold.  Looked at from
one figure of one container, every step of a scan is a reading, a reset or
nothing, and the memory holds the figure just while a reading above the
threshold stands.  So each alert about it is a crossing, and each crossing an
alert.
-/

namespace ContainerFleet
namespace Alert

open Binary64 Daemon

/-! ## The events of one figure -/

/-- The readings of one figure that came of the figures of one host. -/
def sweepReadings (host id : String) (measure : Measure) :
    String × List Container × Except Fault (List Stats.Usage) → List Float
  | (name, _, .ok usages) =>
    if name = host then (usages.filter (·.containerId = id)).map measure.of else []
  | (_, _, .error _) => []

namespace View

/-- A reset, where the listing of the host is one for the container. -/
def resetEvents (view : View) (previous : Option (List Container)) (host id : String) :
    List Event :=
  match view.listings.get? host with
  | some containers =>
    if resets (previous.any fun listed => listed.any (·.id = id)) containers id then [.reset]
    else []
  | none => []

/-- The events of one figure in a scan: the listings come before the readings. -/
def events (view : View) (previous : Option (List Container)) (host id : String)
    (measure : Measure) : List Event :=
  view.resetEvents previous host id ++
    (view.sweeps.flatMap (sweepReadings host id measure)).map .reading

end View

/-- The events of one figure in some scans, after those `before`. -/
def eventsFrom (host id : String) (measure : Measure) :
    (before : List View) → List View → List Event
  | _, [] => []
  | before, view :: later =>
    view.events (lastListing before host) host id measure ++
      eventsFrom host id measure (before ++ [view]) later

/-- The events of one figure in the scans of a run. -/
def events (host id : String) (measure : Measure) (views : List View) : List Event :=
  eventsFrom host id measure [] views

theorem events_snoc (host id : String) (measure : Measure) (views : List View) (view : View) :
    events host id measure (views ++ [view]) =
      events host id measure views ++ view.events (lastListing views host) host id measure := by
  have from_before : ∀ before, eventsFrom host id measure before (views ++ [view]) =
      eventsFrom host id measure before views ++
        view.events (lastListing (before ++ views) host) host id measure := by
    induction views with
    | nil => simp [eventsFrom]
    | cons first later inductionHypothesis =>
      intro before
      rw [List.cons_append, eventsFrom, eventsFrom, inductionHypothesis, List.append_assoc,
        List.append_assoc, List.singleton_append]
  exact from_before []

/-! ## One step on one figure -/

/-- The notices about one figure, each told by its value and its threshold. -/
def told (host id : String) (measure : Measure) (notices : List Notice) :
    List (Option Float × Option Float) :=
  (notices.filter fun notice =>
    notice.host = host ∧ notice.containerId = id ∧ notice.kind = measure.kind).map
      fun notice => (notice.value, notice.threshold)

theorem told_append (host id : String) (measure : Measure) (notices more : List Notice) :
    told host id measure (notices ++ more) =
      told host id measure notices ++ told host id measure more := by
  rw [told, told, told, List.filter_append, List.map_append]

/-- The memory holds a figure just while a reading above its threshold stands. -/
def Holds (settings : AlertSettings) (host id : String) (measure : Measure) (memory : Memory)
    (past : List Event) : Prop :=
  (host, id, measure) ∈ memory.above ↔ Latched (measure.threshold settings) past

/-- A step of the memory follows some events of a figure: the memory still holds
what stands, and there is a notice for each crossing. -/
structure Follows (settings : AlertSettings) (host id : String) (measure : Measure)
    (past events : List Event) (outcome : Memory × List Notice) : Prop where
  holds : Holds settings host id measure outcome.1 (past ++ events)
  told : told host id measure outcome.2 =
    (crossings (measure.threshold settings) past events).map fun value =>
      (some value, some (measure.threshold settings))

section Steps

variable {settings : AlertSettings} {host id : String} {measure : Measure} {memory : Memory}
  {past : List Event}

theorem follows_nothing (holds : Holds settings host id measure memory past) :
    Follows settings host id measure past [] (memory, []) := by
  refine ⟨?_, rfl⟩
  rw [List.append_nil]
  exact holds

/-- One step after another follows the events of both. -/
theorem Follows.andThen {events more : List Event} {first second : Memory × List Notice}
    (before : Follows settings host id measure past events first)
    (after : Follows settings host id measure (past ++ events) more second) :
    Follows settings host id measure past (events ++ more) (second.1, first.2 ++ second.2) := by
  constructor
  · rw [← List.append_assoc]
    exact after.holds
  · rw [told_append, crossings_append, List.map_append, before.told, after.told]

theorem kind_injective {first second : Measure} (same : first.kind = second.kind) :
    first = second := by
  cases first <;> cases second <;> first | rfl | cases same

theorem measure_order (thresholds : settings.Comparable) {usage : Stats.Usage}
    (figures : usage.Comparable) (measure : Measure) :
    ¬ measure.of usage ≤ measure.threshold settings ↔
      measure.threshold settings < measure.of usage := by
  cases measure with
  | cpu => exact not_le_iff_lt figures.1 thresholds.1
  | memory => exact not_le_iff_lt figures.2 thresholds.2

/-- Comparing a figure is a reading of it. -/
theorem compare_follows_reading (holds : Holds settings host id measure memory past)
    (thresholds : settings.Comparable) {usage : Stats.Usage} (figures : usage.Comparable)
    (same : usage.containerId = id) (name : String) :
    Follows settings host id measure past [.reading (measure.of usage)]
      (memory.compare settings host name usage measure) := by
  subst same
  have order := measure_order thresholds figures measure
  have stands : Latched (measure.threshold settings) (past ++ [.reading (measure.of usage)]) ↔
      measure.threshold settings < measure.of usage := by
    rw [latched_snoc]
    constructor
    · rintro (⟨value, same, above⟩ | ⟨keeps, -⟩)
      · cases same
        exact above
      · exact order.mp keeps
    · intro above
      exact .inl ⟨_, rfl, above⟩
  have crossed : crossings (measure.threshold settings) past [.reading (measure.of usage)] =
      if measure.threshold settings < measure.of usage ∧
        ¬ Latched (measure.threshold settings) past then [measure.of usage] else [] := by
    rw [crossings, crossings]
  rw [Memory.compare]
  by_cases low : measure.of usage ≤ measure.threshold settings
  · have notAbove : ¬ measure.threshold settings < measure.of usage := fun above =>
      order.mpr above low
    rw [if_pos low]
    constructor
    · rw [Holds, stands, List.mem_filter]
      exact ⟨fun kept => absurd rfl (of_decide_eq_true kept.2), fun above =>
        absurd above notAbove⟩
    · rw [crossed, if_neg fun crossing => notAbove crossing.1]
      rfl
  · have above := order.mp low
    rw [if_neg low]
    by_cases kept : memory.above.contains (host, usage.containerId, measure) = true
    · have present := List.contains_iff_mem.mp kept
      rw [if_pos kept]
      constructor
      · rw [Holds, stands]
        exact iff_of_true present above
      · rw [crossed, if_neg fun crossing => crossing.2 (holds.mp present)]
        rfl
    · have absent : ¬ Latched (measure.threshold settings) past := fun latched =>
        kept (List.contains_iff_mem.mpr (holds.mpr latched))
      rw [if_neg kept]
      constructor
      · rw [Holds, stands]
        exact iff_of_true (List.mem_append_right _ (List.mem_singleton_self _)) above
      · rw [crossed, if_pos ⟨above, absent⟩, told, List.filter_cons_of_pos]
        · rfl
        · exact decide_eq_true ⟨rfl, rfl, rfl⟩

/-- Comparing a figure is nothing to any other. -/
theorem compare_follows_nothing (holds : Holds settings host id measure memory past)
    {usage : Stats.Usage} {other : String} {compared : Measure}
    (foreign : ¬ (other = host ∧ usage.containerId = id ∧ compared = measure)) (name : String) :
    Follows settings host id measure past []
      (memory.compare settings other name usage compared) := by
  have key : (host, id, measure) ≠ (other, usage.containerId, compared) := by
    intro same
    cases same
    exact foreign ⟨rfl, rfl, rfl⟩
  rw [Memory.compare]
  split
  · refine ⟨?_, rfl⟩
    rw [Holds, List.append_nil, List.mem_filter]
    exact (and_iff_left (decide_eq_true key)).trans holds
  · split
    · exact follows_nothing holds
    · constructor
      · rw [Holds, List.append_nil, List.mem_append, List.mem_singleton]
        exact (or_iff_left key).trans holds
      · rw [told, List.filter_cons_of_neg]
        · rfl
        · rw [decide_eq_true_iff]
          rintro ⟨sameHost, sameId, sameKind⟩
          exact foreign ⟨sameHost, sameId, kind_injective sameKind⟩

/-- The figures of a container are one reading of each of its measures. -/
theorem takeUsage_follows (holds : Holds settings host id measure memory past)
    (thresholds : settings.Comparable) {usage : Stats.Usage} (figures : usage.Comparable)
    (other : String) (containers : List Container) :
    Follows settings host id measure past
      (if other = host ∧ usage.containerId = id then [.reading (measure.of usage)] else [])
      (memory.takeUsage settings other containers usage) := by
  rw [Memory.takeUsage]
  dsimp only
  generalize Memory.nameIn containers usage.containerId = name
  by_cases own : other = host ∧ usage.containerId = id
  · rcases own with ⟨rfl, same⟩
    rw [if_pos ⟨rfl, same⟩]
    cases measure with
    | cpu =>
      have first := compare_follows_reading holds thresholds figures same name
      have foreign : ¬ (other = other ∧ usage.containerId = id ∧ Measure.memory = Measure.cpu) :=
        fun wrong => absurd wrong.2.2 (by decide)
      exact first.andThen (compare_follows_nothing first.holds foreign name)
    | memory =>
      have foreign : ¬ (other = other ∧ usage.containerId = id ∧ Measure.cpu = Measure.memory) :=
        fun wrong => absurd wrong.2.2 (by decide)
      have first := compare_follows_nothing holds foreign name
      exact first.andThen (compare_follows_reading first.holds thresholds figures same name)
  · rw [if_neg own]
    have foreign : ∀ compared, ¬ (other = host ∧ usage.containerId = id ∧ compared = measure) :=
      fun compared wrong => own ⟨wrong.1, wrong.2.1⟩
    have first := compare_follows_nothing holds (foreign .cpu) name
    exact first.andThen (compare_follows_nothing first.holds (foreign .memory) name)

/-! ## A scan on one figure -/

theorem takeSweep_follows (holds : Holds settings host id measure memory past)
    (thresholds : settings.Comparable) (other : String) (containers : List Container)
    {usages : List Stats.Usage} (figures : ∀ usage ∈ usages, usage.Comparable) :
    Follows settings host id measure past
      ((sweepReadings host id measure (other, containers, .ok usages)).map .reading)
      (Memory.takeSweep settings other containers memory usages) := by
  induction usages generalizing memory past with
  | nil =>
    have none_read : sweepReadings host id measure (other, containers, .ok []) = [] :=
      ite_self []
    rw [none_read]
    exact follows_nothing holds
  | cons usage later inductionHypothesis =>
    rcases List.forall_mem_cons.mp figures with ⟨figure, laterFigures⟩
    have split : (sweepReadings host id measure (other, containers, .ok (usage :: later))).map
        Event.reading =
        (if other = host ∧ usage.containerId = id then [.reading (measure.of usage)] else []) ++
          (sweepReadings host id measure (other, containers, .ok later)).map .reading := by
      rw [sweepReadings, sweepReadings]
      by_cases here : other = host
      · by_cases same : usage.containerId = id <;> simp [here, same]
      · simp [here]
    have first := takeUsage_follows holds thresholds figure other containers
    rw [split, Memory.takeSweep]
    exact first.andThen (inductionHypothesis first.holds laterFigures)

theorem takeSweeps_follows (holds : Holds settings host id measure memory past)
    (thresholds : settings.Comparable)
    {sweeps : List (String × List Container × Except Fault (List Stats.Usage))}
    (figures : ∀ sweep ∈ sweeps, ∀ usages, sweep.2.2 = .ok usages →
      ∀ usage ∈ usages, usage.Comparable) :
    Follows settings host id measure past
      ((sweeps.flatMap (sweepReadings host id measure)).map .reading)
      (Memory.takeSweeps settings memory sweeps) := by
  induction sweeps generalizing memory past with
  | nil => exact follows_nothing holds
  | cons sweep later inductionHypothesis =>
    rcases List.forall_mem_cons.mp figures with ⟨figure, laterFigures⟩
    rcases sweep with ⟨other, containers, outcome⟩
    rw [List.flatMap_cons, List.map_append]
    cases outcome with
    | error fault => exact inductionHypothesis holds laterFigures
    | ok usages =>
      have first := takeSweep_follows holds thresholds other containers (figure usages rfl)
      exact first.andThen (inductionHypothesis first.holds laterFigures)

theorem told_takeListings (memory : Memory) (listings : Table String (List Container))
    (host id : String) (measure : Measure) :
    told host id measure (memory.takeListings listings).2 = [] := by
  rw [told, List.map_eq_nil_iff, List.filter_eq_nil_iff]
  intro notice member
  rw [decide_eq_true_iff]
  intro about
  exact Memory.kind_of_takeListings memory listings notice member about.2.2

/-- Listings are at most a reset of the figure. -/
theorem takeListings_follows (holds : Holds settings host id measure memory past)
    {views : List View} (remembers : Remembers memory views) {view : View} (sound : view.Sound) :
    Follows settings host id measure past
      (view.resetEvents (lastListing views host) host id)
      (memory.takeListings view.listings) := by
  have untold := told_takeListings memory view.listings host id measure
  have above : (host, id, measure) ∈ (memory.takeListings view.listings).1.above ↔
      (host, id, measure) ∈ memory.above ∧ _ :=
    Memory.takeListings_above memory sound.distinct
  rw [remembers.isSome host id] at above
  rw [View.resetEvents]
  cases listed : view.listings.get? host with
  | none =>
    refine ⟨?_, untold⟩
    rw [Holds, List.append_nil, above, listed]
    exact (and_iff_left fun _ wrong => nomatch wrong).trans holds
  | some containers =>
    rw [listed] at above
    dsimp only
    by_cases reset : resets ((lastListing views host).any fun listed => listed.any (·.id = id))
      containers id = true
    · rw [if_pos reset]
      refine ⟨?_, untold⟩
      rw [Holds, above, latched_snoc]
      apply iff_of_false
      · intro kept
        rw [kept.2 containers rfl] at reset
        cases reset
      · rintro (⟨value, wrong, -⟩ | ⟨wrong, -⟩)
        · cases wrong
        · exact wrong
    · rw [if_neg reset]
      refine ⟨?_, untold⟩
      rw [Holds, List.append_nil, above]
      refine (and_iff_left fun other same => ?_).trans holds
      cases same
      exact Bool.not_eq_true _ ▸ reset

/-- A scan follows what it saw. -/
theorem take_follows (holds : Holds settings host id measure memory past)
    (thresholds : settings.Comparable) {views : List View} (remembers : Remembers memory views)
    {view : View} (sound : view.Sound) :
    Follows settings host id measure past
      (view.events (lastListing views host) host id measure) (view.take settings memory) := by
  have first := takeListings_follows holds remembers sound
  exact first.andThen (takeSweeps_follows first.holds thresholds sound.comparable)

end Steps

/-! ## Runs -/

/-- The alerts about one figure, each told by its value and its threshold. -/
def raised (host id : String) (measure : Measure) (alerts : List Alert) :
    List (Option Float × Option Float) :=
  (alerts.filter fun alert =>
    alert.host = host ∧ alert.containerId = id ∧ alert.kind = measure.kind).map
      fun alert => (alert.value, alert.threshold)

/-- Numbering notices keeps what they tell. -/
theorem raised_number (host id : String) (measure : Measure) (now : Int) (issued : Nat)
    (notices : List Notice) :
    raised host id measure (Monitor.number now issued notices) =
      told host id measure notices := by
  induction notices generalizing issued with
  | nil => rfl
  | cons notice later inductionHypothesis =>
    have rest := inductionHypothesis (issued + 1)
    rw [raised, told] at rest
    rw [Monitor.number, raised, told, List.filter_cons, List.filter_cons]
    have kept : ((notice.alert (numberedId (issued + 1)) now).host = host ∧
        (notice.alert (numberedId (issued + 1)) now).containerId = id ∧
        (notice.alert (numberedId (issued + 1)) now).kind = measure.kind) ↔
      (notice.host = host ∧ notice.containerId = id ∧ notice.kind = measure.kind) := Iff.rfl
    simp only [kept]
    split
    · exact congrArg ((notice.value, notice.threshold) :: ·) rest
    · exact rest

variable {σ : Type} {peers : Daemon.Peers σ} {fleet : Fleet}

/-- After any scans the memory is what they showed. -/
theorem Run.invariant {settings : AlertSettings} {scans : List Scan} {monitor : Monitor}
    (thresholds : settings.Comparable) (run : Run peers fleet settings scans monitor) :
    monitor.settings = settings ∧ Remembers monitor.memory (scans.map Scan.view) ∧
      ∀ host id measure, Holds settings host id measure monitor.memory
        (events host id measure (scans.map Scan.view)) := by
  rcases run.remembers with ⟨same, remembers⟩
  refine ⟨same, remembers, fun host id measure => ?_⟩
  clear same remembers
  induction run with
  | @start monitor fresh =>
    rcases ok_of_bind fresh with ⟨history, -, built⟩
    cases built
    exact iff_of_false List.not_mem_nil (not_latched_nil _)
  | @scan scans monitor next now before after view alerts run seen checked holds =>
    rcases run.remembers with ⟨rfl, remembers⟩
    rcases checkOnce_cases seen checked with ⟨sound, rfl, rfl⟩
    rw [List.map_append, List.map_singleton, events_snoc]
    exact (take_follows holds thresholds remembers sound).holds

/-- Threshold alerts are edge triggered.  Each scan of a run raises for a figure
one alert for each reading that crosses its threshold, in the order of the
readings and with the reading and the threshold, and no other alert of its
kind; and there is always a next scan. -/
theorem Run.alerts_of_crossings {members : Decode.Members} {settings : AlertSettings}
    {scans : List Scan} {monitor : Monitor}
    (decoded : AlertSettings.decode members = .ok settings)
    (run : Run peers fleet settings scans monitor) :
    (∀ earlier scan later, scans = earlier ++ scan :: later →
      ∀ (host id : String) (measure : Measure),
        raised host id measure scan.alerts =
          (crossings (measure.threshold settings)
            (events host id measure (earlier.map Scan.view))
            (scan.view.events (lastListing (earlier.map Scan.view) host) host id measure)).map
              fun value => (some value, some (measure.threshold settings))) ∧
    ∀ (now : Int) (before : Daemon.Exchange σ), ∃ view next alerts after,
      look peers fleet before = .ok view after ∧
        monitor.checkOnce peers fleet now before = .ok (next, alerts) after := by
  have thresholds := AlertSettings.comparable_of_decode decoded
  constructor
  · induction run with
    | start fresh =>
      intro earlier scan later split
      exact absurd split.symm (List.append_ne_nil_of_right_ne_nil earlier (List.cons_ne_nil _ _))
    | @scan scans monitor next now before after view alerts run seen checked inductionHypothesis =>
      intro earlier scan later split host id measure
      rcases snoc_cases split with ⟨-, rfl, rfl⟩ | ⟨others, -, rfl⟩
      · rcases run.invariant thresholds with ⟨same, remembers, holds⟩
        rcases checkOnce_cases seen checked with ⟨sound, rfl, rfl⟩
        subst same
        have follows := take_follows (holds host id measure) thresholds remembers sound
        exact (raised_number host id measure now monitor.issued _).trans follows.told
      · exact inductionHypothesis earlier scan others rfl host id measure
  · intro now before
    rcases look_ok peers fleet before with ⟨view, after, seen, -⟩
    exact ⟨view, _, _, after, seen, checkOnce_of_look peers seen⟩

/-- A host with one running container. -/
def busyFleet : Fleet :=
  ⟨[⟨"a", "unix:///a"⟩], by decide⟩

/-- A document that tells how many of a hundred ticks were used. -/
def busyFigures (used : Int) : Json :=
  .object [("cpu_stats", .object [("cpu_usage", .object [("total_usage", .whole used)]),
    ("system_cpu_usage", .whole 100), ("online_cpus", .whole 1)])]

/-- The host's daemon, which gives these documents one after another. -/
def busyExchange (used : List Int) : Exchange Stage :=
  let listing := .array [.object [("Id", .text "c"), ("State", .text "running")]]
  .start (.start [("unix:///a", [("containers", [.document listing]),
    ("stats", used.map fun used => .document (busyFigures used))])] [])

/-- What a scan of the host sees. -/
def busyView (percent : Float) : View :=
  let containers := [⟨"c", [], "a", "", "", "", 0, "running", "", []⟩]
  ⟨[("a", containers)], [("a", containers, .ok [⟨"c", "a", percent, 0, 0, 0.0, 0, 0, 0, 0, 0, 0⟩])]⟩

/-- A second reading above the threshold raises nothing. -/
theorem Run.one_alert_while_above : ∃ settings first second monitor,
    AlertSettings.decode [] = .ok settings ∧
    Run Stage.peers busyFleet settings
      [⟨busyView 90.0, first⟩, ⟨busyView 95.0, second⟩] monitor ∧
    raised "a" "c" .cpu first = [(some 90.0, some 80.0)] ∧
    raised "a" "c" .cpu second = [] := by
  obtain ⟨settings, monitor, decoded, fresh, threshold⟩ : ∃ settings monitor,
      AlertSettings.decode [] = .ok settings ∧ Monitor.ofSettings settings = .ok monitor ∧
        settings.cpuThreshold = 80.0 :=
    ⟨_, _, rfl, rfl, rfl⟩
  obtain ⟨middle, after, seen, seenAgain⟩ : ∃ middle after,
      look Stage.peers busyFleet (busyExchange [90, 95]) = .ok (busyView 90.0) middle ∧
        look Stage.peers busyFleet middle = .ok (busyView 95.0) after :=
    ⟨_, _, rfl, rfl⟩
  obtain ⟨next, first, checked⟩ : ∃ next first,
      monitor.checkOnce Stage.peers busyFleet 0 (busyExchange [90, 95]) =
        .ok (next, first) middle :=
    ⟨_, _, checkOnce_of_look Stage.peers seen⟩
  obtain ⟨last, second, checkedAgain⟩ : ∃ last second,
      next.checkOnce Stage.peers busyFleet 30 middle = .ok (last, second) after :=
    ⟨_, _, checkOnce_of_look Stage.peers seenAgain⟩
  have run := ((Run.start fresh).scan seen checked).scan seenAgain checkedAgain
  have alerts := (alerts_of_crossings decoded run).1
  have crossed : crossings 80.0 [] ((busyView 90.0).events none "a" "c" .cpu) = [90.0] := by
    decide +kernel
  have stands : crossings 80.0 (events "a" "c" .cpu [busyView 90.0])
      ((busyView 95.0).events (lastListing [busyView 90.0] "a") "a" "c" .cpu) = [] := by
    decide +kernel
  refine ⟨settings, first, second, last, decoded, run, ?_, ?_⟩
  · have told := alerts [] ⟨busyView 90.0, first⟩ [⟨busyView 95.0, second⟩] rfl "a" "c" .cpu
    rw [Measure.threshold, threshold] at told
    exact told.trans (congrArg (List.map _) crossed)
  · have told := alerts [⟨busyView 90.0, first⟩] ⟨busyView 95.0, second⟩ [] rfl "a" "c" .cpu
    rw [Measure.threshold, threshold] at told
    exact told.trans (congrArg (List.map _) stands)

end Alert
end ContainerFleet
