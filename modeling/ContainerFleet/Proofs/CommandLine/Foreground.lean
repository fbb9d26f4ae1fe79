import ContainerFleet.CommandLine.Run
import ContainerFleet.Daemon.Script
import ContainerFleet.Proofs.Alert.Deliveries
import ContainerFleet.Proofs.Fleet.Connecting

/-!
# The alerts that are told at the end of a watch

The command that watches in the foreground makes its scans one after another and lets the
deliveries of each end before the next.  This is one order of the moves of a desk, so the
number that it writes at its end is that of all alerts it told about, as far as the
history has room for them.
-/

namespace ContainerFleet
namespace CommandLine

open Daemon
open Alert (Monitor)
open Alert.Interleaving

variable {σ : Type} (peers : Peers σ)

namespace Setting

variable (setting : Setting)

/-- The scans of a watch are moves of a desk, and each alert of a scan has its line. -/
theorem scans_follow (fleet : Fleet) (rounds : Nat) (desk : Desk) (idle : desk.underWay = [])
    (before : Exchange σ) :
    ∃ moves last text fault after scans,
      desk.follow peers fleet moves before = .ok last after ∧
      setting.scans peers fleet rounds desk.monitor before = .ok (last.monitor, text, fault) after ∧
      last.scans = desk.scans ++ scans ∧
      (fault = none → scans.length = rounds ∧ ∃ lines,
        (scans.flatMap Scanned.raised).mapM setting.alertLine = .ok lines ∧
          text = String.join lines) := by
  -- A round leaves no delivery under way, which is what the next one has to begin with.
  induction rounds generalizing desk before with
  | zero =>
    exact ⟨[], desk, "", none, before, [], rfl, rfl, (List.append_nil _).symm,
      fun _ => ⟨rfl, [], rfl, rfl⟩⟩
  | succ rounds inductionHypothesis =>
    rcases desk.follow_checkAndAnnounce peers idle fleet setting.now before with
      ⟨moves, next, alerts, middle, followed, checked, idleNext, scansNext⟩
    cases told : alerts.mapM fun alert => setting.alertLine alert with
    | error fault =>
      refine ⟨moves, next, "", some fault, middle, _, followed, ?_, scansNext, ?_⟩
      · rw [scans, bind_of_ran checked]
        dsimp only
        rw [told]
        rfl
      · intro faultless
        cases faultless
    | ok lines =>
      rcases inductionHypothesis next idleNext middle with
        ⟨movesLater, last, text, fault, after, later, followedLater, ran, scansLast, whole⟩
      refine ⟨moves ++ movesLater, last, String.join lines ++ text, fault, after,
        ⟨desk.monitor, alerts, next.monitor⟩ :: later, ?_, ?_, ?_, ?_⟩
      · exact (Desk.follow_append peers followed movesLater).trans followedLater
      · rw [scans, bind_of_ran checked]
        dsimp only
        rw [told]
        exact bind_of_ran ran
      · rw [scansLast, scansNext, List.append_assoc, List.singleton_append]
      · intro faultless
        rcases whole faultless with ⟨count, linesLater, toldLater, rfl⟩
        refine ⟨congrArg Nat.succ count, lines ++ linesLater, ?_, String.join_append.symm⟩
        change alerts.mapM setting.alertLine = .ok lines at told
        rw [List.flatMap_cons, List.mapM_append, told, toldLater]
        rfl

/-- A plane whose settings enable alerts has a monitor that has told nothing yet. -/
theorem monitor_of_ofSettings {settings : Settings} (enabled : settings.alerts.enabled = true)
    {before after : Exchange σ} {plane : Plane}
    (connected : Plane.ofSettings peers settings before = .ok plane after) :
    ∃ monitor, plane.monitor = some monitor ∧ monitor.history.alerts = [] ∧
      monitor.history.capacity = settings.alerts.historySize.toNat := by
  rcases ran_of_bind connected with ⟨fleet, middle, -, made⟩
  rw [if_pos enabled] at made
  rcases ran_of_bind made with ⟨monitor, last, set, returned⟩
  rcases ok_of_bind (ok_of_ofExcept set) with ⟨history, roomy, same⟩
  cases returned
  cases same
  refine ⟨_, rfl, ?_⟩
  rw [Alert.History.withCapacity] at roomy
  split at roomy
  · cases roomy
    exact ⟨rfl, rfl⟩
  · cases roomy

/-- A watch that could begin writes what its scans wrote and then how many alerts the last
monitor still counts. -/
theorem monitor_of_connected {rounds : Nat} {plane : Plane} {first last : Monitor} {text : String}
    {fault : Option Fault} {before middle here after : Exchange σ}
    (connected : Plane.ofSettings peers setting.settings before = .ok plane middle)
    (set : plane.monitor = some first)
    (scanned : setting.scans peers plane.fleet rounds first middle = .ok (last, text, fault) here)
    (closed : plane.fleet.close peers here = .ok () after) :
    ∃ report, setting.monitor peers rounds before = .ok report after ∧
      report.out =
        setting.line .bold s!"Monitoring {plane.fleet.hosts.length} host(s)..." ++ text ++
          s!"{last.history.pending} unacknowledged alert(s)\n" ∧
      (report.ending = .ok 0 → fault = none) := by
  have attempted : attempt (Plane.ofSettings peers setting.settings) before =
      .ok (.ok plane) middle := by
    rw [attempt, connected]
  have stopped : plane.stop peers here =
      .ok { plane with monitor := plane.monitor.map Monitor.stop } after := bind_of_ran closed
  rw [monitor, onPlane, bind_of_ran attempted]
  dsimp only
  rw [set]
  dsimp only
  rw [bind_of_ran scanned]
  dsimp only
  rw [bind_of_ran stopped]
  cases fault with
  | none => exact ⟨_, rfl, rfl, fun _ => rfl⟩
  | some fault =>
    refine ⟨_, rfl, rfl, ?_⟩
    intro well
    cases well

/-- A watch with some scans: those of a desk that begins with the monitor of the plane.  It
writes a line for each alert and then how many there were, as far as the history has room. -/
structure Watched (rounds : Nat) (plane : Plane) (before : Exchange σ) (monitor : Monitor)
    (desk : Desk) (report : Report) : Prop where
  set : plane.monitor = some monitor
  capacity : monitor.history.capacity = setting.settings.alerts.historySize.toNat
  followed : ∃ moves after,
    (Desk.start monitor).follow peers plane.fleet moves before = .ok desk after
  out : ∃ text,
    report.out =
      setting.line .bold s!"Monitoring {plane.fleet.hosts.length} host(s)..." ++ text ++
        s!"{min monitor.history.capacity desk.raised.length} unacknowledged alert(s)\n" ∧
    (report.ending = .ok 0 → desk.scans.length = rounds ∧ ∃ lines,
      desk.raised.mapM setting.alertLine = .ok lines ∧ text = String.join lines)

/-- The command that watches in the foreground tells why it could not begin, or has watched. -/
theorem run_monitor (unlimited : Nat) (ticks : Int) (interval : Option Float)
    (before : Exchange σ) :
    ∃ report after,
      setting.run peers unlimited (.monitor ticks interval) before = .ok report after ∧
      ((∃ fault, Plane.ofSettings peers (setting.watching interval).settings before =
          .error fault after ∧ report = setting.conclude "" (some fault)) ∨
        ∃ plane middle monitor desk,
          Plane.ofSettings peers (setting.watching interval).settings before = .ok plane middle ∧
          setting.Watched peers (if ticks = 0 then unlimited else ticks.toNat) plane middle monitor
            desk report) := by
  rw [Setting.run]
  generalize (if ticks = 0 then unlimited else ticks.toNat) = rounds
  let watching := setting.watching interval
  rcases attempt_cases (Plane.ofSettings peers watching.settings) before with
    ⟨plane, middle, connected, attempted⟩ | ⟨fault, after, failed, attempted⟩
  · rcases monitor_of_ofSettings peers rfl connected with ⟨monitor, set, fresh, capacity⟩
    rcases watching.scans_follow peers plane.fleet rounds (Desk.start monitor) rfl middle with
      ⟨moves, desk, text, fault, here, scans, followed, scanned, all, whole⟩
    rcases (accounts_start monitor).follow peers plane.fleet moves rfl with
      ⟨last, there, again, accounts, -⟩
    cases followed.symm.trans again
    rcases Connect.close_ok peers plane.fleet here with ⟨after, closed⟩
    rcases watching.monitor_of_connected peers connected set scanned closed with
      ⟨report, reported, out, ending⟩
    refine ⟨report, after, reported, .inr ⟨plane, middle, monitor, desk, connected, set, capacity,
      ⟨moves, here, followed⟩, text, ?_, ?_⟩⟩
    · rw [out, accounts.pending fresh]
      rfl
    · intro well
      have raised : desk.raised = scans.flatMap Scanned.raised := by
        rw [Desk.raised, all]
        rfl
      rw [raised, all]
      exact whole (ending well)
  · exact ⟨_, after, bind_of_ran attempted, .inl ⟨fault, failed, rfl⟩⟩

end Setting

/-- Every alert is recorded and announced once, however the deliveries end, and the watch in
the foreground tells how many there were. -/
theorem every_alert_accounted :
    (∀ {σ : Type} (peers : Peers σ) (fleet : Fleet) (monitor : Monitor) (moves : List Move)
      (before : Exchange σ), ∃ desk after,
        (Desk.start monitor).follow peers fleet moves before = .ok desk after ∧
        desk.Accounts monitor ∧
        after.posts = (desk.messages monitor).reverse ++ before.posts ∧
        (monitor.history.alerts = [] →
          desk.monitor.history.pending = min monitor.history.capacity desk.raised.length)) ∧
    (∀ {σ τ υ : Type}
      (daemons : (uri : String) → (call : Daemon.Call) → σ → Except PeerError call.Answer × σ)
      (receiver : Post → τ → Delivery × τ) (other : Post → υ → Delivery × υ) (fleet : Fleet)
      (monitor : Monitor) (moves others : List Move) (first : Exchange (σ × τ))
      (second : Exchange (σ × υ)), scanTimes moves = scanTimes others → SameDaemons first second →
      ∃ one here two there,
        (Desk.start monitor).follow (apart daemons receiver) fleet moves first = .ok one here ∧
        (Desk.start monitor).follow (apart daemons other) fleet others second = .ok two there ∧
        one.scans = two.scans ∧ one.monitor = two.monitor) ∧
    ∀ {σ : Type} (peers : Peers σ) (setting : Setting) (unlimited : Nat) (ticks : Int)
      (interval : Option Float) (before : Exchange σ), ∃ report after,
      setting.run peers unlimited (.monitor ticks interval) before = .ok report after ∧
      ((∃ fault, Plane.ofSettings peers (setting.watching interval).settings before =
          .error fault after ∧ report = setting.conclude "" (some fault)) ∨
        ∃ plane middle monitor desk,
          Plane.ofSettings peers (setting.watching interval).settings before = .ok plane middle ∧
          setting.Watched peers (if ticks = 0 then unlimited else ticks.toNat) plane middle monitor
            desk report) := by
  refine ⟨?_, ?_, fun peers setting => setting.run_monitor peers⟩
  · intro σ peers fleet monitor moves before
    rcases (accounts_start monitor).follow peers fleet moves rfl with
      ⟨desk, after, ran, accounts, posts⟩
    exact ⟨desk, after, ran, accounts, posts, accounts.pending⟩
  · intro σ τ υ daemons receiver other fleet monitor moves others first second times same
    rcases (accounts_start monitor).follow (apart daemons receiver) fleet moves rfl with
      ⟨one, here, ran, accounts, -⟩
    rcases (accounts_start monitor).follow (apart daemons other) fleet others rfl with
      ⟨two, there, ranOther, accountsOther, -⟩
    have scans := scans_unreached daemons receiver other fleet monitor times same ran ranOther
    refine ⟨one, here, two, there, ran, ranOther, scans, ?_⟩
    have linked := accounts.linked
    rw [scans] at linked
    exact linked.unique accountsOther.linked

/-- A daemon whose container is not running, then is, then is not. -/
def restartingStage : Stage :=
  let listing (state : String) := Response.document
    (.array [.object [("Id", .text "c"), ("State", .text state)]])
  .start [("unix:///a", [("containers", [listing "exited", listing "running",
    listing "exited"])])] []

/-- A receiver that cannot be reached. -/
def unreachable (_ : Post) (state : Unit) : Delivery × Unit :=
  (.undelivered, state)

/-- A receiver that cannot be reached and a history with room for one alert: of two alerts
both are announced, and one is still counted. -/
theorem one_counted_of_two : ∃ settings monitor desk after,
    AlertSettings.decode [("webhook_url", .text "http://r/"), ("history_size", .whole 1)] =
      .ok settings ∧
    Monitor.ofSettings settings = .ok monitor ∧
    (Desk.start monitor).follow (apart Stage.answer unreachable) ⟨[⟨"a", "unix:///a"⟩], by decide⟩
      [.scan 0, .scan 1, .deliver 2 0, .scan 3] (.start (restartingStage, ())) = .ok desk after ∧
    desk.raised.length = 2 ∧ desk.started = desk.raised ∧ desk.monitor.history.pending = 1 := by
  let fleet : Fleet := ⟨[⟨"a", "unix:///a"⟩], by decide⟩
  let peers := apart Stage.answer unreachable
  obtain ⟨settings, monitor, alone, last, decoded, set, fresh, capacity, announces, scanned, raised⟩ :
      ∃ settings monitor alone last,
        AlertSettings.decode [("webhook_url", .text "http://r/"), ("history_size", .whole 1)] =
          .ok settings ∧
        Monitor.ofSettings settings = .ok monitor ∧
        monitor.history.alerts = [] ∧ monitor.history.capacity = 1 ∧
        monitor.settings.announces = true ∧
        (Desk.start monitor).follow peers fleet [.scan 0, .scan 1, .scan 3]
          (.start (restartingStage, ())) = .ok alone last ∧
        alone.raised.length = 2 :=
    ⟨_, _, _, _, rfl, rfl, rfl, rfl, rfl, rfl, rfl⟩
  rcases every_alert_accounted.1 peers fleet monitor [.scan 0, .scan 1, .deliver 2 0, .scan 3]
    (.start (restartingStage, ())) with ⟨desk, after, ran, accounts, -, pending⟩
  have unaffected := every_alert_accounted.2.1 Stage.answer unreachable unreachable fleet monitor
    [.scan 0, .scan 1, .deliver 2 0, .scan 3] [.scan 0, .scan 1, .scan 3]
    (.start (restartingStage, ())) (.start (restartingStage, ())) rfl rfl
  rcases unaffected with ⟨one, here, two, there, again, scannedAgain, scans, -⟩
  cases ran.symm.trans again
  cases scanned.symm.trans scannedAgain
  have both : desk.raised.length = 2 := by
    rw [Desk.raised, scans]
    exact raised
  have started := accounts.started
  rw [if_pos announces] at started
  have counted := pending fresh
  rw [capacity, both] at counted
  exact ⟨settings, monitor, desk, after, decoded, set, ran, both, started, counted⟩

end CommandLine
end ContainerFleet
