import ContainerFleet.Proofs.Alert.Run
import ContainerFleet.Proofs.Fleet.Gathering
import ContainerFleet.Proofs.Fleet.Workers

/-!
# What a scan can see while the hosts work

The hosts are asked for their listings all at once, and after that those on which a
container runs are asked for figures, again all at once.  Which host takes the next
turn, and which report is gathered first, is open.  `Sees` says what such a scan can
say and see.

Two statements tie it to the rest.  A scan that asks one host after the other is a
scan of this kind, so what holds of these holds of those that run here.  And in every
order a host holds one dialogue, `visit`, whose turns and outcome are all that the
scan has to do with the host.
-/

namespace ContainerFleet
namespace Alert

open Daemon Fleet

variable {σ : Type} {fleet : Fleet}

/-- The listed hosts on which a container runs. -/
def busy (listings : Table String (List Container)) : Table String (List Container) :=
  listings.filter fun entry => entry.2.any Container.running

/-- Read the figures of the host of a name. -/
def sweepOf (fleet : Fleet) (name : String) : Dialogue (List Stats.Usage) :=
  match fleet.host name with
  | .ok host => .sweep host
  | .error fault => .done (.error fault)

/-- What came of reading the figures of some hosts, each beside the listing before it. -/
def beside (listings : Table String (List Container))
    (figures : List (String × Except Fault (List Stats.Usage))) :
    Table String (List Container × Except Fault (List Stats.Usage)) :=
  List.zipWith (fun entry outcome => (entry.1, entry.2, outcome.2)) listings figures

/-- A scan of hosts that work at the same time can say and see this. -/
inductive Sees (fleet : Fleet) : List (String × Turn) → View → Prop
  | intro {listed swept : List (String × Turn)}
      {outcomes : List (String × Except Fault (List Container))}
      {state : Gathering.State (List Container)}
      {figures : List (String × Except Fault (List Stats.Usage))} :
      Interleaved (fleet.hosts.map fun host => (host.name, .listing host)) listed outcomes →
      Gathering.State.Arises outcomes state → state.finished = true →
      Interleaved ((busy state.gathered.results).map fun entry => (entry.1, sweepOf fleet entry.1))
        swept figures →
      Sees fleet (listed ++ swept)
        ⟨state.gathered.results, beside (busy state.gathered.results) figures⟩

/-! ## One host after the other -/

/-- What some turns leave among the requests of an exchange, latest first. -/
def requestsOf (fleet : Fleet) (spoken : List (String × Turn)) : List (String × Call) :=
  (spoken.map fun said => (((fleet.find? said.1).map Host.uri).getD "", said.2.call)).reverse

theorem requestsOf_append (first second : List (String × Turn)) :
    requestsOf fleet (first ++ second) = requestsOf fleet second ++ requestsOf fleet first := by
  rw [requestsOf, List.map_append, List.reverse_append]
  rfl

theorem requestsOf_map {host : Host} (member : host ∈ fleet.hosts) (turns : List Turn) :
    requestsOf fleet (turns.map (host.name, ·)) = Dialogue.requests host.uri turns := by
  rw [requestsOf, List.map_map, Dialogue.requests]
  congr 1
  apply List.map_congr_left
  intro turn _
  rw [Function.comp_apply, find?_of_mem member]
  rfl

variable (peers : Peers σ)

theorem interleaved_of_gather {hosts : List Host} (among : ∀ host ∈ hosts, host ∈ fleet.hosts)
    {before after : Exchange σ} {gathered : Gathered (List Container)}
    (ran : gatherFrom (listContainers peers · true) hosts before = .ok gathered after) :
    ∃ spoken outcomes,
      Interleaved (hosts.map fun host => (host.name, Dialogue.listing host)) spoken outcomes ∧
      gathered = .ofOutcomes outcomes ∧
      after.calls = requestsOf fleet spoken ++ before.calls := by
  induction hosts generalizing before gathered with
  | nil =>
    cases ran
    exact ⟨[], [], .done [], rfl, rfl⟩
  | cons host later inductionHypothesis =>
    rcases Dialogue.runs_of_hold peers host.uri (.listing host) before with
      ⟨turns, outcome, middle, held, runs, calls⟩
    rw [Dialogue.hold_listing] at held
    rw [gatherFrom, bind_of_ran held] at ran
    rcases ran_of_bind ran with ⟨rest, last, restRan, returned⟩
    cases returned
    rcases List.forall_mem_cons.mp among with ⟨here, amongLater⟩
    rcases inductionHypothesis amongLater restRan with
      ⟨spoken, outcomes, interleaved, rfl, restCalls⟩
    refine ⟨_, _, .cons runs interleaved, rfl, ?_⟩
    rw [restCalls, calls, requestsOf_append, requestsOf_map here, List.append_assoc]

theorem runs_of_onHost (name : String) (before : Exchange σ) :
    ∃ turns outcome after,
      attempt (fleet.onHost name (Stats.sweep peers)) before = .ok outcome after ∧
      (sweepOf fleet name).Runs turns outcome ∧
      after.calls = requestsOf fleet (turns.map (name, ·)) ++ before.calls := by
  rw [Fleet.onHost, sweepOf, Fleet.host]
  cases found : fleet.find? name with
  | none => exact ⟨[], _, before, rfl, .done _, rfl⟩
  | some host =>
    rcases mem_of_find? found with ⟨member, rfl⟩
    rcases Dialogue.runs_of_hold peers host.uri (.sweep host) before with
      ⟨turns, outcome, after, held, runs, calls⟩
    rw [Dialogue.hold_sweep] at held
    rw [← requestsOf_map member] at calls
    exact ⟨turns, outcome, after, held, runs, calls⟩

theorem interleaved_of_sweepAll {listings : Table String (List Container)}
    {before after : Exchange σ}
    {sweeps : List (String × List Container × Except Fault (List Stats.Usage))}
    (ran : sweepAll peers fleet listings before = .ok sweeps after) :
    ∃ spoken figures,
      Interleaved ((busy listings).map fun entry => (entry.1, sweepOf fleet entry.1)) spoken
        figures ∧
      sweeps = beside (busy listings) figures ∧
      after.calls = requestsOf fleet spoken ++ before.calls := by
  induction listings generalizing before sweeps with
  | nil =>
    cases ran
    exact ⟨[], [], .done [], rfl, rfl⟩
  | cons entry later inductionHypothesis =>
    rcases entry with ⟨name, containers⟩
    rw [sweepAll] at ran
    split at ran
    case isTrue runs =>
      rcases runs_of_onHost peers name before with
        ⟨turns, outcome, middle, attempted, dialogue, calls⟩
      rw [bind_of_ran attempted] at ran
      rcases ran_of_bind ran with ⟨rest, last, restRan, returned⟩
      cases returned
      rcases inductionHypothesis restRan with ⟨spoken, figures, interleaved, rfl, restCalls⟩
      have first : busy ((name, containers) :: later) = (name, containers) :: busy later :=
        List.filter_cons_of_pos runs
      rw [first]
      refine ⟨_, _, .cons dialogue interleaved, rfl, ?_⟩
      rw [restCalls, calls, requestsOf_append, List.append_assoc]
    case isFalse idle =>
      have left : busy ((name, containers) :: later) = busy later :=
        List.filter_cons_of_neg idle
      rw [left]
      exact inductionHypothesis ran

/-- A scan that asks one host after the other is one of those that can be. -/
theorem sees_of_look {before after : Exchange σ} {view : View}
    (seen : look peers fleet before = .ok view after) :
    ∃ spoken, Sees fleet spoken view ∧ after.calls = requestsOf fleet spoken ++ before.calls := by
  rw [look] at seen
  rcases ran_of_bind seen with ⟨gathered, middle, listed, seen⟩
  rcases ran_of_bind seen with ⟨sweeps, last, swept, returned⟩
  cases returned
  rcases interleaved_of_gather peers (fun _ member => member) listed with
    ⟨asked, outcomes, listings, rfl, listingCalls⟩
  rcases interleaved_of_sweepAll peers swept with ⟨read, figures, sweeping, rfl, sweepCalls⟩
  rcases Gathering.arises_in_order outcomes with ⟨state, arises, finished, inOrder⟩
  rw [← inOrder] at sweeping ⊢
  refine ⟨asked ++ read, .intro listings arises finished sweeping, ?_⟩
  rw [sweepCalls, listingCalls, requestsOf_append, List.append_assoc]

/-! ## One dialogue for each host -/

/-- What a scan says to one host: it asks for the listing and, if a container runs,
for the figures.  The outcome is the listing and what came of the figures. -/
def visit (host : Host) :
    Dialogue (List Container × Option (Except Fault (List Stats.Usage))) :=
  (Dialogue.listing host).andThen fun listed =>
    match listed with
    | .ok containers =>
      if containers.any Container.running then
        (Dialogue.sweep host).andThen fun figures => .done (.ok (containers, some figures))
      else .done (.ok (containers, none))
    | .error fault => .done (.error fault)

section Visit

variable {host : Host} {asked read : List Turn} {containers : List Container}

theorem visit_unlisted {fault : Fault}
    (listing : (Dialogue.listing host).Runs asked (.error fault)) :
    (visit host).Runs asked (.error fault) := by
  rw [← List.append_nil asked]
  exact listing.andThen (.done (.error fault))

theorem visit_idle (listing : (Dialogue.listing host).Runs asked (.ok containers))
    (idle : ¬containers.any Container.running = true) :
    (visit host).Runs asked (.ok (containers, none)) := by
  rw [← List.append_nil asked]
  refine listing.andThen ?_
  dsimp only
  rw [if_neg idle]
  exact .done _

theorem visit_busy {figures : Except Fault (List Stats.Usage)}
    (listing : (Dialogue.listing host).Runs asked (.ok containers))
    (runs : containers.any Container.running = true)
    (sweep : (Dialogue.sweep host).Runs read figures) :
    (visit host).Runs (asked ++ read) (.ok (containers, some figures)) := by
  refine listing.andThen ?_
  dsimp only
  rw [if_pos runs, ← List.append_nil read]
  exact sweep.andThen (.done _)

end Visit

section Beside

variable {listings : Table String (List Container)}
  {figures : List (String × Except Fault (List Stats.Usage))}

theorem keys_beside (names : listings.keys = figures.map Prod.fst) :
    (beside listings figures).keys = listings.keys := by
  induction listings generalizing figures with
  | nil => rfl
  | cons entry later inductionHypothesis =>
    cases figures with
    | nil => cases names
    | cons figure rest =>
      rcases List.cons.inj names with ⟨-, restNames⟩
      exact congrArg (entry.1 :: ·) (inductionHypothesis restNames)

theorem mem_beside (names : listings.keys = figures.map Prod.fst) (distinct : listings.keys.Nodup)
    {name : String} {containers : List Container} {outcome : Except Fault (List Stats.Usage)}
    (listed : (name, containers) ∈ listings) (read : (name, outcome) ∈ figures) :
    (name, containers, outcome) ∈ beside listings figures := by
  induction listings generalizing figures with
  | nil => cases listed
  | cons entry later inductionHypothesis =>
    cases figures with
    | nil => cases read
    | cons figure rest =>
      rcases List.cons.inj names with ⟨same, restNames⟩
      rcases List.nodup_cons.mp distinct with ⟨absent, restDistinct⟩
      rcases List.mem_cons.mp listed with here | listedLater <;>
        rcases List.mem_cons.mp read with there | readLater
      · cases here
        cases there
        exact List.mem_cons_self
      · cases here
        have among := List.mem_map_of_mem (f := Prod.fst) readLater
        exact absurd (restNames ▸ among) absent
      · cases there
        have among := List.mem_map_of_mem (f := Prod.fst) listedLater
        rw [same] at absent
        exact absurd among absent
      · exact List.mem_cons_of_mem _
          (inductionHypothesis restNames restDistinct listedLater readLater)

end Beside

theorem mem_busy {listings : Table String (List Container)} {name : String}
    {containers : List Container} : (name, containers) ∈ busy listings ↔
      (name, containers) ∈ listings ∧ containers.any Container.running = true :=
  List.mem_filter

/-- A host on which no listed container runs is not asked for figures. -/
theorem not_mem_keys_busy {listings : Table String (List Container)}
    (distinct : listings.keys.Nodup) {name : String}
    (idle : ∀ containers, listings.get? name = some containers →
      ¬containers.any Container.running = true) : name ∉ (busy listings).keys := by
  intro among
  rcases List.mem_map.mp among with ⟨⟨_, containers⟩, found, rfl⟩
  rcases mem_busy.mp found with ⟨listed, runs⟩
  exact idle containers ((Table.get?_eq_some_iff distinct).mpr listed) runs

theorem distinct_busy {listings : Table String (List Container)} (distinct : listings.keys.Nodup) :
    (busy listings).keys.Nodup :=
  (List.filter_sublist.map Prod.fst).nodup distinct

theorem distinct_outcomes {listed : List (String × Turn)}
    {outcomes : List (String × Except Fault (List Container))}
    (listing : Interleaved (fleet.hosts.map fun host => (host.name, .listing host)) listed
      outcomes) : (outcomes.map Prod.fst).Nodup := by
  rw [← listing.names, List.map_map]
  exact fleet.distinct

/-- No host is seen twice. -/
theorem Sees.distinct {spoken : List (String × Turn)} {view : View}
    (sees : Sees fleet spoken view) :
    view.listings.keys.Nodup ∧ (Table.keys view.sweeps).Nodup := by
  rcases sees with ⟨listing, arises, finished, sweeping⟩
  have distinctResults :=
    (Gathering.results_get? (distinct_outcomes listing) arises finished).1
  have names := sweeping.names
  rw [List.map_map] at names
  exact ⟨distinctResults, keys_beside names ▸ distinct_busy distinctResults⟩

/-- In every order a host holds its own dialogue, and a scan sees what comes of it. -/
theorem Sees.visited {spoken : List (String × Turn)} {view : View} (sees : Sees fleet spoken view)
    {host : Host} (member : host ∈ fleet.hosts) :
    ∃ outcome, (visit host).Runs (turnsOf host.name spoken) outcome ∧
      view.listings.get? host.name = outcome.toOption.map Prod.fst ∧
      Table.get? view.sweeps host.name =
        outcome.toOption.bind fun seen => seen.2.map fun figures => (seen.1, figures) := by
  rcases sees with @⟨listed, swept, outcomes, state, figures, listing, arises, finished, sweeping⟩
  have distinctOutcomes := distinct_outcomes listing
  have distinctResults := (Gathering.results_get? distinctOutcomes arises finished).1
  have distinctBusy := distinct_busy distinctResults
  have names := sweeping.names
  rw [List.map_map] at names
  have keys := keys_beside names
  rcases listing.runs (by rw [listing.names]; exact distinctOutcomes)
    (List.mem_map.mpr ⟨host, member, rfl⟩) with ⟨outcome, reported, asked⟩
  have answered := Gathering.results_get?_of_mem distinctOutcomes arises finished reported
  -- A host of which no figures are read says nothing more and is among no sweeps.
  have unread : host.name ∉ (busy state.gathered.results).keys →
      turnsOf host.name swept = [] ∧
        Table.get? (beside (busy state.gathered.results) figures) host.name = none := by
    intro absent
    refine ⟨sweeping.silent ?_, Table.get?_of_not_mem_keys (keys ▸ absent)⟩
    rw [List.map_map]
    exact absent
  rw [turnsOf_append]
  dsimp only
  rw [answered]
  cases outcome with
  | error fault =>
    have absent := not_mem_keys_busy distinctResults fun containers listed =>
      absurd (answered.symm.trans listed) (Option.some_ne_none containers).symm
    rcases unread absent with ⟨silent, unswept⟩
    rw [silent, List.append_nil, unswept]
    exact ⟨.error fault, visit_unlisted asked, rfl, rfl⟩
  | ok containers =>
    have listed := (Table.get?_eq_some_iff distinctResults).mp answered
    by_cases runs : containers.any Container.running = true
    · have found := mem_busy.mpr ⟨listed, runs⟩
      have own : sweepOf fleet host.name = .sweep host := by
        rw [sweepOf, Fleet.host, find?_of_mem member]
      rcases sweeping.runs (by rw [List.map_map]; exact distinctBusy)
        (List.mem_map.mpr ⟨_, found, rfl⟩) with ⟨read, inFigures, swept⟩
      rw [own] at swept
      have shown := mem_beside names distinctBusy found inFigures
      exact ⟨.ok (containers, some read), visit_busy asked runs swept, rfl,
        (Table.get?_eq_some_iff (keys ▸ distinctBusy)).mpr shown⟩
    · have absent := not_mem_keys_busy distinctResults fun others listed =>
        Option.some.inj (answered.symm.trans listed) ▸ runs
      rcases unread absent with ⟨silent, unswept⟩
      rw [silent, List.append_nil, unswept]
      exact ⟨.ok (containers, none), visit_idle asked runs, rfl, rfl⟩

end Alert
end ContainerFleet
