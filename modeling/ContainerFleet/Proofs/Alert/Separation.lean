import ContainerFleet.Proofs.Alert.Part
import ContainerFleet.Proofs.Alert.Sees

/-!
# Hosts do not influence each other's alerts

Two monitors may look after different fleets that have one host in common, and all
other hosts may answer, fail and finish as they like.  If the daemon of that host
answers alike in both runs, then each scan tells alike of it, asks it alike and
remembers alike of it.

The statement compares two runs of any length.  Carried from scan to scan are the part
of the memory that belongs to the host and what its daemon has been told: from these
the dialogue of the host is the same in both runs, and its outcome is all that the
shared memory and the shared list of alerts take in for it.
-/

namespace ContainerFleet
namespace Alert

open Daemon Fleet

/-- The thresholds are the same. -/
def SameThresholds (first second : AlertSettings) : Prop :=
  ∀ measure : Measure, measure.threshold first = measure.threshold second

namespace Memory

/-! ## What is taken in for a host -/

section Settings

variable {first second : AlertSettings} (same : SameThresholds first second)

include same

theorem compare_eq (memory : Memory) (host name : String) (usage : Stats.Usage)
    (measure : Measure) :
    memory.compare first host name usage measure =
      memory.compare second host name usage measure := by
  rw [compare, compare, same measure]

theorem takeSweep_eq (host : String) (containers : List Container) (memory : Memory)
    (usages : List Stats.Usage) :
    takeSweep first host containers memory usages =
      takeSweep second host containers memory usages := by
  induction usages generalizing memory with
  | nil => rfl
  | cons usage later inductionHypothesis =>
    have one : memory.takeUsage first host containers usage =
        memory.takeUsage second host containers usage := by
      rw [takeUsage, takeUsage]
      dsimp only
      rw [compare_eq same, compare_eq same]
    rw [takeSweep, takeSweep]
    dsimp only
    rw [one, inductionHypothesis]

/-- Of what a scan saw, a host is reached by its own listing and its own figures. -/
theorem share_take_eq {host : String} {one two : View} {memory other : Memory}
    (distinctOne : one.listings.keys.Nodup ∧ (Table.keys one.sweeps).Nodup)
    (distinctTwo : two.listings.keys.Nodup ∧ (Table.keys two.sweeps).Nodup)
    (listed : one.listings.get? host = two.listings.get? host)
    (swept : Table.get? one.sweeps host = Table.get? two.sweeps host)
    (remembered : memory.part host = other.part host) :
    share host (one.take first memory) = share host (two.take second other) := by
  have heard : share host (memory.takeListings one.listings) =
      share host (other.takeListings two.listings) := by
    rw [share_takeListings host memory distinctOne.1, share_takeListings host other distinctTwo.1,
      listed, remembered]
  have middle : (memory.takeListings one.listings).1.part host =
      (other.takeListings two.listings).1.part host := congrArg Prod.fst heard
  have read : share host (takeSweeps first (memory.takeListings one.listings).1 one.sweeps) =
      share host (takeSweeps second (other.takeListings two.listings).1 two.sweeps) := by
    rw [share_takeSweeps first host _ distinctOne.2, share_takeSweeps second host _ distinctTwo.2,
      swept, middle]
    split
    · exact takeSweep_eq same host _ _ _
    · rfl
  rw [View.take, View.take]
  dsimp only
  rw [share_append, share_append, heard, read]

end Settings
end Memory

/-- The alerts about a host tell what the notices about it tell. -/
theorem map_notice_filter (now : Int) (issued : Nat) (notices : List Notice) (host : String) :
    ((Monitor.number now issued notices).filter fun alert => alert.host == host).map notice =
      notices.filter fun notice => notice.host == host := by
  have told := List.filter_map (f := notice) (p := fun notice => notice.host == host)
    (l := Monitor.number now issued notices)
  rw [map_notice_number] at told
  exact told.symm

/-! ## Two runs -/

/-- One scan while the hosts work: what was said, which alerts it raised, and what was
remembered after it. -/
structure Pass where
  spoken : List (String × Turn)
  alerts : List Alert
  memory : Memory

/-- Scans by a monitor, one after another, and the monitor after them. -/
inductive Passes (fleet : Fleet) : Monitor → List Pass → Monitor → Prop
  | done (monitor : Monitor) : Passes fleet monitor [] monitor
  | scan (monitor : Monitor) {last : Monitor} (now : Int) {spoken : List (String × Turn)}
      {view : View} {later : List Pass} : Sees fleet spoken view →
      Passes fleet (monitor.after now view).1 later last →
      Passes fleet monitor
        (⟨spoken, (monitor.after now view).2, (monitor.after now view).1.memory⟩ :: later) last

theorem Passes.snoc {fleet : Fleet} {first monitor : Monitor} {passes : List Pass}
    (run : Passes fleet first passes monitor) (now : Int) {spoken : List (String × Turn)}
    {view : View} (sees : Sees fleet spoken view) :
    Passes fleet first
      (passes ++ [⟨spoken, (monitor.after now view).2, (monitor.after now view).1.memory⟩])
      (monitor.after now view).1 := by
  induction run with
  | done monitor => exact .scan monitor now sees (.done _)
  | scan monitor earlier seesEarlier _ inductionHypothesis =>
    exact .scan monitor earlier seesEarlier inductionHypothesis

/-- A run that asks one host after the other is a run of this kind. -/
theorem Run.passes {σ : Type} {peers : Peers σ} {fleet : Fleet} {settings : AlertSettings}
    {scans : List Scan} {monitor : Monitor} (run : Run peers fleet settings scans monitor) :
    ∃ fresh passes, Monitor.ofSettings settings = .ok fresh ∧ Passes fleet fresh passes monitor ∧
      passes.map Pass.alerts = scans.map Scan.alerts := by
  induction run with
  | @start monitor fresh => exact ⟨monitor, [], fresh, .done monitor, rfl⟩
  | @scan scans monitor next now before after view alerts _ seen checked inductionHypothesis =>
    rcases inductionHypothesis with ⟨fresh, passes, started, run, told⟩
    rcases sees_of_look peers seen with ⟨spoken, sees, -⟩
    rcases checkOnce_cases seen checked with ⟨-, rfl, rfl⟩
    refine ⟨fresh, _, started, run.snoc now sees, ?_⟩
    rw [List.map_append, List.map_append, told]
    rfl

/-- For a host two scans are alike: they tell the same of it, say the same to it, and
leave the same remembered of it. -/
structure Alike (host : String) (one two : Pass) : Prop where
  alerts : (one.alerts.filter fun alert => alert.host == host).map notice =
    (two.alerts.filter fun alert => alert.host == host).map notice
  turns : turnsOf host one.spoken = turnsOf host two.spoken
  memory : one.memory.part host = two.memory.part host

variable {first second : Fleet} {host : Host} {mind : Mind}

/-- One scan. -/
theorem alike_of_sees (inFirst : host ∈ first.hosts) (inSecond : host ∈ second.hosts)
    {one two : Monitor} (same : SameThresholds one.settings two.settings)
    (remembered : one.memory.part host.name = two.memory.part host.name)
    {spokenOne spokenTwo : List (String × Turn)} {viewOne viewTwo : View}
    (seesOne : Sees first spokenOne viewOne) (seesTwo : Sees second spokenTwo viewTwo)
    {told : List Call} (speaksOne : mind.Speaks told (turnsOf host.name spokenOne))
    (speaksTwo : mind.Speaks told (turnsOf host.name spokenTwo)) (nowOne nowTwo : Int) :
    Alike host.name
      ⟨spokenOne, (one.after nowOne viewOne).2, (one.after nowOne viewOne).1.memory⟩
      ⟨spokenTwo, (two.after nowTwo viewTwo).2, (two.after nowTwo viewTwo).1.memory⟩ := by
  rcases seesOne.visited inFirst with ⟨outcome, visitOne, listedOne, sweptOne⟩
  rcases seesTwo.visited inSecond with ⟨other, visitTwo, listedTwo, sweptTwo⟩
  rcases visitOne.unique visitTwo speaksOne speaksTwo with ⟨turns, rfl⟩
  have taken := Memory.share_take_eq same seesOne.distinct seesTwo.distinct
    (listedOne.trans listedTwo.symm) (sweptOne.trans sweptTwo.symm) remembered
  refine ⟨?_, turns, congrArg Prod.fst taken⟩
  rw [Monitor.after, Monitor.after]
  dsimp only
  rw [map_notice_filter, map_notice_filter]
  exact congrArg Prod.snd taken

/-! ## Runs -/

/-- What is said to a host in some scans. -/
def saidTo (host : String) (passes : List Pass) : List Turn :=
  passes.flatMap fun pass => turnsOf host pass.spoken

theorem Passes.alike_from (inFirst : host ∈ first.hosts) (inSecond : host ∈ second.hosts)
    {one two lastOne lastTwo : Monitor} {passesOne passesTwo : List Pass}
    (runOne : Passes first one passesOne lastOne) (runTwo : Passes second two passesTwo lastTwo)
    (same : SameThresholds one.settings two.settings)
    (remembered : one.memory.part host.name = two.memory.part host.name) {told : List Call}
    (speaksOne : mind.Speaks told (saidTo host.name passesOne))
    (speaksTwo : mind.Speaks told (saidTo host.name passesTwo)) {index : Nat}
    {passOne passTwo : Pass} (atOne : passesOne[index]? = some passOne)
    (atTwo : passesTwo[index]? = some passTwo) :
    Alike host.name passOne passTwo := by
  induction runOne generalizing two passesTwo told index with
  | done monitor => cases atOne
  | @scan one last nowOne spokenOne viewOne laterOne seesOne _ inductionHypothesis =>
    cases runTwo with
    | done monitor => cases atTwo
    | @scan _ _ nowTwo spokenTwo viewTwo laterTwo seesTwo restTwo =>
      rw [saidTo, List.flatMap_cons, Mind.speaks_append] at speaksOne speaksTwo
      have alike := alike_of_sees inFirst inSecond same remembered seesOne seesTwo speaksOne.1
        speaksTwo.1 nowOne nowTwo
      cases index with
      | zero =>
        cases atOne
        cases atTwo
        exact alike
      | succ index =>
        have turns : turnsOf host.name spokenOne = turnsOf host.name spokenTwo := alike.turns
        refine inductionHypothesis restTwo same alike.memory speaksOne.2 ?_ atOne atTwo
        rw [turns]
        exact speaksTwo.2

/-- A monitor that has not scanned yet remembers nothing. -/
theorem fresh_of_settings {settings : AlertSettings} {monitor : Monitor}
    (started : Monitor.ofSettings settings = .ok monitor) :
    monitor.settings = settings ∧ monitor.memory = .empty := by
  rcases ok_of_bind started with ⟨history, -, built⟩
  cases built
  exact ⟨rfl, rfl⟩

/-- What a scan tells, asks and remembers of a host depends on nothing but what the
daemon of the host answers: not on the other hosts, whether they answer or fail, and not
on the order in which the workers and the sweeps take their turns and finish. -/
theorem Passes.unaffected (mind : Mind) {firstSettings secondSettings : AlertSettings}
    (same : SameThresholds firstSettings secondSettings) (inFirst : host ∈ first.hosts)
    (inSecond : host ∈ second.hosts) {one two lastOne lastTwo : Monitor}
    (startedOne : Monitor.ofSettings firstSettings = .ok one)
    (startedTwo : Monitor.ofSettings secondSettings = .ok two)
    {passesOne passesTwo : List Pass} (runOne : Passes first one passesOne lastOne)
    (runTwo : Passes second two passesTwo lastTwo)
    (speaksOne : mind.Speaks [] (saidTo host.name passesOne))
    (speaksTwo : mind.Speaks [] (saidTo host.name passesTwo)) :
    ∀ (index : Nat) (passOne passTwo : Pass), passesOne[index]? = some passOne →
      passesTwo[index]? = some passTwo → Alike host.name passOne passTwo := by
  intro index passOne passTwo atOne atTwo
  rcases fresh_of_settings startedOne with ⟨rfl, emptyOne⟩
  rcases fresh_of_settings startedTwo with ⟨rfl, emptyTwo⟩
  have remembered : one.memory.part host.name = two.memory.part host.name := by
    rw [emptyOne, emptyTwo]
  exact runOne.alike_from inFirst inSecond runTwo same remembered speaksOne speaksTwo atOne atTwo

/-! ## A host alone and beside one that fails -/

/-- A listing of one container in this state. -/
def stateDocument (state : String) : Json :=
  .array [.object [("Id", .text "c"), ("State", .text state)]]

/-- A daemon whose container has no figures to read and has stopped when the fourth
request comes. -/
def stoppingMind : Mind
  | told, .containers _ =>
    .ok (stateDocument (if told.length < 3 then "running" else "exited"))
  | _, _ => .error ⟨.connection, "unreachable"⟩

/-- A fleet of the host alone. -/
def hostAlone : Fleet := ⟨[⟨"a", "unix:///a"⟩], List.nodup_singleton _⟩

/-- A fleet in which another host is configured in front of it. -/
def hostBeside : Fleet := ⟨[⟨"b", "unix:///b"⟩, ⟨"a", "unix:///a"⟩], by decide⟩

def shownContainer (state : String) : Container := ⟨"c", [], "a", "", "", "", 0, state, "", []⟩

theorem listing_runs (state : String) :
    (Dialogue.listing ⟨"a", "unix:///a"⟩).Runs
      [⟨.containers true, .ok (stateDocument state)⟩] (.ok [shownContainer state]) :=
  .ask _ (.done _)

theorem sweep_runs : (Dialogue.sweep ⟨"a", "unix:///a"⟩).Runs
    [⟨.containers true, .ok (stateDocument "running")⟩,
      ⟨.stats "c", .error ⟨.connection, "unreachable"⟩⟩] (.ok []) :=
  .ask _ (.ask _ (.done _))

theorem listing_fails : (Dialogue.listing ⟨"b", "unix:///b"⟩).Runs
      [⟨.containers true, .error ⟨.connection, "unreachable"⟩⟩]
      (.error (.peer ⟨.connection, "unreachable"⟩)) :=
  .ask _ (.done _)

/-- The end of a gathering in which only the host was listed. -/
def gatheredAlone (state : String) (faults : List (String × Fault)) :
    Gathering.State (List Container) :=
  ⟨[], true, [], ⟨[("a", [shownContainer state])], faults⟩, true⟩

theorem sees_running {fleet : Fleet} {listed : List (String × Turn)}
    {outcomes : List (String × Except Fault (List Container))} {faults : List (String × Fault)}
    (listing : Interleaved (fleet.hosts.map fun host => (host.name, .listing host)) listed outcomes)
    (arises : Gathering.State.Arises outcomes (gatheredAlone "running" faults))
    (found : fleet.find? "a" = some ⟨"a", "unix:///a"⟩) :
    Sees fleet
      (listed ++ [("a", ⟨.containers true, .ok (stateDocument "running")⟩),
        ("a", ⟨.stats "c", .error ⟨.connection, "unreachable"⟩⟩)])
      ⟨[("a", [shownContainer "running"])], [("a", [shownContainer "running"], .ok [])]⟩ := by
  have sweeping : Interleaved [("a", sweepOf fleet "a")]
      [("a", ⟨.containers true, .ok (stateDocument "running")⟩),
        ("a", ⟨.stats "c", .error ⟨.connection, "unreachable"⟩⟩)] [("a", .ok [])] := by
    rw [sweepOf, Fleet.host, found]
    exact .cons sweep_runs (.done [])
  exact .intro listing arises rfl sweeping

theorem sees_stopped {fleet : Fleet} {listed : List (String × Turn)}
    {outcomes : List (String × Except Fault (List Container))} {faults : List (String × Fault)}
    (listing : Interleaved (fleet.hosts.map fun host => (host.name, .listing host)) listed outcomes)
    (arises : Gathering.State.Arises outcomes (gatheredAlone "exited" faults)) :
    Sees fleet (listed ++ []) ⟨[("a", [shownContainer "exited"])], []⟩ :=
  have idle : Interleaved [] [] ([] : List (String × Except Fault (List Stats.Usage))) := .done []
  .intro listing arises rfl idle

/-- The stop of a container is told alike when another host is there that fails and takes
other turns. -/
theorem Passes.stop_told_beside_outage : ∃ settings one two lastOne lastTwo passesOne passesTwo,
    Monitor.ofSettings settings = .ok one ∧ Passes hostAlone one passesOne lastOne ∧
    Monitor.ofSettings settings = .ok two ∧ Passes hostBeside two passesTwo lastTwo ∧
    stoppingMind.Speaks [] (saidTo "a" passesOne) ∧
    stoppingMind.Speaks [] (saidTo "a" passesTwo) ∧
    ∃ passOne passTwo, passesOne[1]? = some passOne ∧ passesTwo[1]? = some passTwo ∧
      Alike "a" passOne passTwo ∧ passOne.alerts.map Alert.kind = [.stopped] := by
  obtain ⟨settings, history, decoded, room⟩ : ∃ settings history,
      AlertSettings.decode [] = .ok settings ∧
      History.withCapacity settings.historySize = .ok history := ⟨_, _, rfl, rfl⟩
  let fresh : Monitor := ⟨settings, .empty, history, 0, false, false⟩
  have started : Monitor.ofSettings settings = .ok fresh := by
    rw [Monitor.ofSettings, room]
    rfl
  have alone : ∀ state, Interleaved (hostAlone.hosts.map fun host => (host.name, .listing host)) _
      [("a", .ok [shownContainer state])] := fun state => .cons (listing_runs state) (.done [])
  have besides : ∀ state, Interleaved
      (hostBeside.hosts.map fun host => (host.name, .listing host)) _
      [("b", .error (.peer ⟨.connection, "unreachable"⟩)), ("a", .ok [shownContainer state])] :=
    fun state => .cons listing_fails (.cons (listing_runs state) (.done []))
  have reported : ∀ state, Gathering.State.Arises [("a", .ok [shownContainer state])]
      (gatheredAlone state []) := fun state => ⟨[.report "a", .collect, .mark, .collect], rfl⟩
  -- The host reports before the one that is configured in front of it.
  have reportedFirst : ∀ state, Gathering.State.Arises
      [("b", .error (.peer ⟨.connection, "unreachable"⟩)), ("a", .ok [shownContainer state])]
      (gatheredAlone state [("b", .peer ⟨.connection, "unreachable"⟩)]) := fun state =>
    ⟨[.report "a", .report "b", .collect, .mark, .collect, .collect], rfl⟩
  have runOne := Passes.scan fresh 0 (sees_running (alone "running") (reported "running") rfl)
    (.scan _ 60 (sees_stopped (alone "exited") (reported "exited")) (.done _))
  have runTwo := Passes.scan fresh 5
    (sees_running (besides "running") (reportedFirst "running") rfl)
    (.scan _ 90 (sees_stopped (besides "exited") (reportedFirst "exited")) (.done _))
  have inAlone : ⟨"a", "unix:///a"⟩ ∈ hostAlone.hosts := List.mem_cons_self
  have inBeside : ⟨"a", "unix:///a"⟩ ∈ hostBeside.hosts := List.mem_cons_of_mem _ inAlone
  refine ⟨settings, fresh, fresh, _, _, _, _, started, runOne, started, runTwo,
    ⟨rfl, rfl, rfl, rfl, trivial⟩, ⟨rfl, rfl, rfl, rfl, trivial⟩, _, _, rfl, rfl, ?_, rfl⟩
  exact Passes.unaffected stoppingMind (fun _ => rfl) inAlone inBeside started started runOne runTwo
    ⟨rfl, rfl, rfl, rfl, trivial⟩ ⟨rfl, rfl, rfl, rfl, trivial⟩ 1 _ _ rfl rfl

end Alert
end ContainerFleet
