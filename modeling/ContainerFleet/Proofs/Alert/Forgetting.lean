import ContainerFleet.Proofs.Alert.Thresholds
import Mathlib.Data.List.Induction

/-!
# What is left of a container that vanished

A scan asks a host twice for its containers, once for the listing and once more
to read the figures, and the containers can change in between.  A container that
a listing no longer has is forgotten as far as the listings know of it.  Its
figures are re-armed only where the listing before had it: a reading that came in
a scan whose own listing did not have the container stays above its threshold
when the container vanishes.  Without such a late reading nothing is left.
-/

namespace ContainerFleet
namespace Alert

open Daemon

namespace Memory

/-- What is remembered right after the check of one host's listing; the listings
`before` it were checked already. -/
def afterListing (memory : Memory) (before : Table String (List Container)) (host : String)
    (containers : List Container) : Memory :=
  ((memory.takeListings before).1.takeListing host containers).1

/-- Checking all listings passes through the check of each of them. -/
theorem takeListings_through (memory : Memory) (before later : Table String (List Container))
    (host : String) (containers : List Container) :
    (memory.takeListings (before ++ (host, containers) :: later)).1 =
      ((memory.afterListing before host containers).takeListings later).1 := by
  induction before generalizing memory with
  | nil => rfl
  | cons entry before inductionHypothesis =>
    rw [List.cons_append, takeListings]
    dsimp only
    rw [inductionHypothesis]
    rfl

variable {host id : String} {before later : Table String (List Container)}
  {containers : List Container}

/-- A host that is listed once is not among the listings before its own. -/
theorem get?_before (distinct : (before ++ (host, containers) :: later : Table _ _).keys.Nodup) :
    Table.get? before host = none := by
  rw [Table.keys, List.map_append, List.map_cons] at distinct
  apply Table.get?_of_not_mem_keys
  intro member
  exact (List.nodup_append.mp distinct).2.2 host member host List.mem_cons_self rfl

theorem afterListing_running (memory : Memory) (before : Table String (List Container))
    (host : String) (absent : (containers.any fun container => container.id = id) = false) :
    (memory.afterListing before host containers).running.get? (host, id) = none := by
  rw [afterListing, takeListing_running, if_pos rfl, ← Option.not_isSome_iff_eq_none,
    isSome_stateIn, absent]
  exact Bool.false_ne_true

/-- The check of a listing without the container re-arms its figures just where
its running state was remembered. -/
theorem afterListing_above (memory : Memory)
    (distinct : (before ++ (host, containers) :: later : Table _ _).keys.Nodup)
    (absent : (containers.any fun container => container.id = id) = false) (measure : Measure) :
    (host, id, measure) ∈ (memory.afterListing before host containers).above ↔
      (host, id, measure) ∈ memory.above ∧ (memory.running.get? (host, id)).isSome = false := by
  have distinctBefore : (Table.keys before).Nodup := by
    rw [Table.keys, List.map_append] at distinct
    exact (List.nodup_append.mp distinct).1
  have unlisted := get?_before distinct
  have unstopped : (containers.any fun container =>
      container.id = id && !container.running) = false := by
    rw [List.any_eq_false] at absent ⊢
    intro container member stopped
    exact absent container member (Bool.and_eq_true_iff.mp stopped).1
  rw [afterListing, takeListing_above, takeListings_above memory distinctBefore,
    takeListings_running memory distinctBefore, unlisted, resets, absent, unstopped]
  simp

end Memory

/-! ## Late readings -/

namespace View

/-- The scan's own listing of the host has the container. -/
def Lists (view : View) (host id : String) : Prop :=
  ∃ containers, view.listings.get? host = some containers ∧
    (containers.any fun container => container.id = id) = true

/-- The scan read figures of the container. -/
def Reads (view : View) (host id : String) : Prop :=
  ∃ containers usages, (host, containers, .ok usages) ∈ view.sweeps ∧
    ∃ usage ∈ usages, usage.containerId = id

theorem readings_of_not_reads {view : View} {host id : String} (unread : ¬ view.Reads host id)
    (measure : Measure) : view.sweeps.flatMap (sweepReadings host id measure) = [] := by
  rw [List.flatMap_eq_nil_iff]
  rintro ⟨name, containers, outcome⟩ member
  cases outcome with
  | error fault => rfl
  | ok usages =>
    rw [sweepReadings]
    split
    case isFalse => rfl
    case isTrue same =>
      subst same
      rw [List.map_eq_nil_iff, List.filter_eq_nil_iff]
      intro usage read same
      exact unread ⟨containers, usages, member, usage, read, of_decide_eq_true same⟩

end View

/-- A listing has the container. -/
def Known (listing : Option (List Container)) (id : String) : Prop :=
  (listing.any fun containers => containers.any fun container => container.id = id) = true

theorem known_of_lists {views : List View} {view : View} {host id : String}
    (lists : view.Lists host id) : Known (lastListing (views ++ [view]) host) id := by
  rcases lists with ⟨containers, listed, member⟩
  rw [lastListing_snoc, listed]
  exact member

/-- A reading that stands was of a container that its host's last listing has,
unless it was late. -/
theorem known_of_latched {views : List View} {host id : String} {measure : Measure}
    {threshold : Float} (timely : ∀ view ∈ views, view.Reads host id → view.Lists host id)
    (latched : Latched threshold (events host id measure views)) :
    Known (lastListing views host) id := by
  induction views using List.reverseRecOn with
  | nil => exact absurd latched (not_latched_nil threshold)
  | append_singleton views view inductionHypothesis =>
    by_cases reads : view.Reads host id
    · exact known_of_lists (timely view (List.mem_append_right _ List.mem_cons_self) reads)
    · have earlier : ∀ view ∈ views, view.Reads host id → view.Lists host id :=
        fun view member => timely view (List.mem_append_left _ member)
      rw [events_snoc, View.events, View.readings_of_not_reads reads, List.map_nil,
        List.append_nil, View.resetEvents] at latched
      rw [lastListing_snoc]
      cases listed : view.listings.get? host with
      | none =>
        rw [listed, List.append_nil] at latched
        rw [Option.none_or]
        exact inductionHypothesis earlier latched
      | some containers =>
        rw [listed] at latched
        dsimp only at latched
        -- A reset would have been the last event, so nothing would stand after it.
        split at latched
        · rcases (latched_snoc threshold _ .reset).mp latched with ⟨value, wrong, -⟩ | ⟨wrong, -⟩
          · cases wrong
          · exact wrong.elim
        case isFalse unreset =>
          rw [List.append_nil] at latched
          have known := inductionHypothesis earlier latched
          rw [Known] at known
          rw [resets, known, Bool.true_and, Bool.or_eq_true, not_or, Bool.not_eq_true',
            Bool.not_eq_false] at unreset
          exact unreset.2

variable {σ : Type} {peers : Peers σ} {fleet : Fleet}

/-- What is left of a container that a listing does not have.  The scan goes on from
what is remembered right after the check of the listing.  There the container's running
state is forgotten; a figure of it is still above its threshold just where the last
listing before did not have the container either and a reading above the threshold
stands.  So nothing is left where all readings of the container came in scans whose
listing had it. -/
theorem Run.left_of_vanished {members : Decode.Members} {settings : AlertSettings}
    {scans : List Scan} {monitor : Monitor} (decoded : AlertSettings.decode members = .ok settings)
    (run : Run peers fleet settings scans monitor) {exchange after : Exchange σ} {view : View}
    (seen : look peers fleet exchange = .ok view after)
    {before later : Table String (List Container)} {host : String} {containers : List Container}
    (listed : view.listings = before ++ (host, containers) :: later) {id : String}
    (absent : ∀ container ∈ containers, container.id ≠ id) :
    (∀ now, ∃ next alerts, monitor.checkOnce peers fleet now exchange = .ok (next, alerts) after ∧
      next.memory = (Memory.takeSweeps settings
        ((monitor.memory.afterListing before host containers).takeListings later).1
        view.sweeps).1) ∧
    (monitor.memory.afterListing before host containers).running.get? (host, id) = none ∧
    (∀ measure, (host, id, measure) ∈ (monitor.memory.afterListing before host containers).above ↔
      ¬ Known (lastListing (scans.map Scan.view) host) id ∧
        Latched (measure.threshold settings) (events host id measure (scans.map Scan.view))) ∧
    ((∀ scan ∈ scans, scan.view.Reads host id → scan.view.Lists host id) →
      ∀ measure, (host, id, measure) ∉
        (monitor.memory.afterListing before host containers).above) := by
  rcases run.invariant (AlertSettings.comparable_of_decode decoded) with
    ⟨same, remembers, holds⟩
  have distinct := listed ▸ (sound_of_look seen).distinct
  have unlisted : (containers.any fun container => container.id = id) = false :=
    List.any_eq_false.mpr fun container member same =>
      absent container member (of_decide_eq_true same)
  have left : ∀ measure,
      (host, id, measure) ∈ (monitor.memory.afterListing before host containers).above ↔
        ¬ Known (lastListing (scans.map Scan.view) host) id ∧
          Latched (measure.threshold settings) (events host id measure (scans.map Scan.view)) := by
    intro measure
    rw [Memory.afterListing_above monitor.memory distinct unlisted measure,
      remembers.isSome host id, Known, Bool.not_eq_true]
    exact (and_congr_left' (holds host id measure)).trans and_comm
  refine ⟨fun now => ?_, Memory.afterListing_running monitor.memory before host unlisted, left, ?_⟩
  · refine ⟨_, _, checkOnce_of_look peers seen, ?_⟩
    rw [← Memory.takeListings_through, ← listed, ← same]
    rfl
  · intro timely measure remains
    rcases (left measure).mp remains with ⟨unknown, latched⟩
    refine unknown (known_of_latched ?_ latched)
    intro view member
    rcases List.mem_map.mp member with ⟨scan, among, rfl⟩
    exact timely scan among

/-- The document of a listed container that runs. -/
def runningDocument (id : String) : Json :=
  .object [("Id", .text id), ("State", .text "running")]

/-- A daemon on which a busy container starts behind the first listing and ends
before the second scan.  It has no figures of the other one. -/
def lateExchange : Exchange Stage :=
  let alone := .array [runningDocument "c"]
  .start (.start [("unix:///a", [
    ("containers", [.document alone, .document (.array [runningDocument "c", runningDocument "d"]),
      .document alone]),
    ("stats d", [.document (busyFigures 90)])])] [])

/-- The listing that each scan of the daemon gets. -/
def aloneListing : List Container :=
  [⟨"c", [], "a", "", "", "", 0, "running", "", []⟩]

/-- What its first scan sees. -/
def lateView : View where
  listings := [("a", aloneListing)]
  sweeps := [("a", aloneListing, .ok [⟨"d", "a", 90.0, 0, 0, 0.0, 0, 0, 0, 0, 0, 0⟩])]

/-- A late reading is still above its threshold after the container vanished. -/
theorem Run.late_reading_stays : ∃ settings alerts monitor exchange view after,
    AlertSettings.decode [] = .ok settings ∧
    Run Stage.peers busyFleet settings [⟨lateView, alerts⟩] monitor ∧
    look Stage.peers busyFleet exchange = .ok view after ∧
    view.listings = [("a", aloneListing)] ∧ (∀ container ∈ aloneListing, container.id ≠ "d") ∧
    ("a", "d", .cpu) ∈ (monitor.memory.afterListing [] "a" aloneListing).above := by
  obtain ⟨settings, fresh, decoded, started, threshold⟩ : ∃ settings monitor,
      AlertSettings.decode [] = .ok settings ∧ Monitor.ofSettings settings = .ok monitor ∧
        settings.cpuThreshold = 80.0 :=
    ⟨_, _, rfl, rfl, rfl⟩
  obtain ⟨middle, after, view, seen, seenAgain, listed⟩ : ∃ middle after view,
      look Stage.peers busyFleet lateExchange = .ok lateView middle ∧
        look Stage.peers busyFleet middle = .ok view after ∧
          view.listings = [] ++ ("a", aloneListing) :: [] :=
    ⟨_, _, _, rfl, rfl, rfl⟩
  obtain ⟨monitor, alerts, checked⟩ : ∃ monitor alerts,
      fresh.checkOnce Stage.peers busyFleet 0 lateExchange = .ok (monitor, alerts) middle :=
    ⟨_, _, checkOnce_of_look Stage.peers seen⟩
  have run := (Run.start started).scan seen checked
  have absent : ∀ container ∈ aloneListing, container.id ≠ "d" := by decide
  have left := (left_of_vanished decoded run seenAgain listed absent).2.2.1 .cpu
  have latched : Latched 80.0 (events "a" "d" .cpu [lateView]) := by decide +kernel
  have unknown : ¬ Known (lastListing [lateView] "a") "d" := by
    rw [Known]
    decide
  rw [Measure.threshold, threshold] at left
  exact ⟨settings, alerts, monitor, middle, view, after, decoded, run, seenAgain, listed, absent,
    left.mpr ⟨unknown, latched⟩⟩

end Alert
end ContainerFleet
