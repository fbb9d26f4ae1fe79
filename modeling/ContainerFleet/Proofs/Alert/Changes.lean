import ContainerFleet.Daemon.Script
import ContainerFleet.Proofs.Alert.Crossing
import ContainerFleet.Proofs.Alert.Part
import ContainerFleet.Proofs.Alert.Run

/-!
# Alerts of containers that started or stopped

A container that a listing has is compared with what the last answered listing of
its host showed.  Where that listing had it in the opposite state, there is one
alert; a container that it did not have is only noted.  A host that does not
answer changes nothing, so that after an outage the comparison is with the last
listing before it.
-/

namespace ContainerFleet
namespace Alert

open Daemon

/-- The notices that a container started or stopped. -/
def changes (host id : String) (notices : List Notice) : List Notice :=
  notices.filter fun notice =>
    notice.host = host ∧ notice.containerId = id ∧ (notice.kind = .started ∨ notice.kind = .stopped)

/-- The containers of an id in a listing whose state is the opposite of one
known before. -/
def turned (known : Option Bool) (containers : List Container) (id : String) : List Container :=
  containers.filter fun container => container.id = id ∧ known = some (!container.running)

theorem changes_append (host id : String) (notices more : List Notice) :
    changes host id (notices ++ more) = changes host id notices ++ changes host id more :=
  List.filter_append notices more

theorem changes_eq_nil {host id : String} {notices : List Notice}
    (other : ∀ notice ∈ notices, notice.kind ≠ .started ∧ notice.kind ≠ .stopped) :
    changes host id notices = [] := by
  rw [changes, List.filter_eq_nil_iff]
  intro notice member
  rw [decide_eq_true_iff]
  rintro ⟨-, -, started | stopped⟩
  · exact (other notice member).1 started
  · exact (other notice member).2 stopped

/-- Changes of a host's containers are told in its own share. -/
theorem changes_share (host id : String) (outcome : Memory × List Notice) :
    changes host id (Memory.share host outcome).2 = changes host id outcome.2 := by
  rw [changes, changes, Memory.share, List.filter_filter]
  apply List.filter_congr
  intro notice _
  by_cases here : notice.host = host <;> simp [here]

theorem turned_of_unlisted {containers : List Container} {id : String}
    (unlisted : id ∉ containers.map Container.id) (known : Option Bool) :
    turned known containers id = [] := by
  rw [turned, List.filter_eq_nil_iff]
  intro container member
  rw [decide_eq_true_iff]
  rintro ⟨rfl, -⟩
  exact unlisted (List.mem_map_of_mem member)

namespace Memory

/-- The change of one listed container is told as the notice of its listing. -/
theorem changes_observe (memory : Memory) (host : String) (container : Container) (id : String) :
    changes host id (memory.observe host container).2 =
      (turned (memory.running.get? (host, id)) [container] id).map (changeNotice host) := by
  rw [observe]
  dsimp only
  by_cases same : container.id = id
  · subst same
    split
    case isTrue opposite =>
      have told : changes host container.id [changeNotice host container] =
          [changeNotice host container] := by
        apply List.filter_cons_of_pos
        rw [decide_eq_true_iff, changeNotice]
        cases container.running <;> simp
      simp [told, turned, opposite]
    case isFalse steady =>
      simp [turned, steady, changes]
  · have untold : changes host id [changeNotice host container] = [] := by
      apply List.filter_cons_of_neg
      rw [decide_eq_true_iff]
      exact fun about => same about.2.1
    rw [turned_of_unlisted (by simpa using Ne.symm same)]
    split
    · exact untold
    · rfl

theorem changes_observeAll (memory : Memory) (host : String) {containers : List Container}
    (distinct : (containers.map Container.id).Nodup) (id : String) :
    changes host id (observeAll host memory containers).2 =
      (turned (memory.running.get? (host, id)) containers id).map (changeNotice host) := by
  induction containers generalizing memory with
  | nil => rfl
  | cons container later inductionHypothesis =>
    rcases List.nodup_cons.mp distinct with ⟨absent, laterDistinct⟩
    have split : turned (memory.running.get? (host, id)) (container :: later) id =
        turned (memory.running.get? (host, id)) [container] id ++
          turned (memory.running.get? (host, id)) later id :=
      List.filter_append [container] later
    rw [observeAll]
    dsimp only
    rw [changes_append, changes_observe, inductionHypothesis _ laterDistinct, split,
      List.map_append, observe_running]
    -- A later entry under the same id would be compared with this one, but there is none.
    by_cases same : container.id = id
    · subst same
      rw [turned_of_unlisted absent, turned_of_unlisted absent]
    · rw [if_neg fun both => same both.2]

theorem changes_takeListings (memory : Memory) {listings : Table String (List Container)}
    (distinct : listings.keys.Nodup) (host id : String) :
    changes host id (memory.takeListings listings).2 =
      match listings.get? host with
      | some containers => changes host id ((memory.part host).takeListing host containers).2
      | none => [] := by
  rw [← changes_share, share_takeListings host memory distinct]
  cases listings.get? host <;> rfl

theorem kind_of_compare (memory : Memory) (settings : AlertSettings) (host name : String)
    (usage : Stats.Usage) (measure : Measure) :
    ∀ notice ∈ (memory.compare settings host name usage measure).2, ∃ measure : Measure,
      notice.kind = measure.kind := by
  intro notice member
  rw [compare] at member
  split at member
  · cases member
  · split at member
    · cases member
    · rw [List.mem_singleton.mp member]
      exact ⟨measure, rfl⟩

theorem kind_of_takeSweep (settings : AlertSettings) (host : String)
    (containers : List Container) (memory : Memory) (usages : List Stats.Usage) :
    ∀ notice ∈ (takeSweep settings host containers memory usages).2, ∃ measure : Measure,
      notice.kind = measure.kind := by
  induction usages generalizing memory with
  | nil => exact fun _ member => absurd member List.not_mem_nil
  | cons usage later inductionHypothesis =>
    intro notice member
    rw [takeSweep] at member
    rcases List.mem_append.mp member with member | member
    · rw [takeUsage] at member
      rcases List.mem_append.mp member with member | member
      · exact kind_of_compare _ _ _ _ _ _ notice member
      · exact kind_of_compare _ _ _ _ _ _ notice member
    · exact inductionHypothesis _ notice member

/-- Readings give notice of nothing but thresholds. -/
theorem kind_of_takeSweeps (settings : AlertSettings) (memory : Memory)
    (sweeps : List (String × List Container × Except Fault (List Stats.Usage))) :
    ∀ notice ∈ (takeSweeps settings memory sweeps).2, ∃ measure : Measure,
      notice.kind = measure.kind := by
  induction sweeps generalizing memory with
  | nil => exact fun _ member => absurd member List.not_mem_nil
  | cons sweep later inductionHypothesis =>
    rcases sweep with ⟨host, containers, outcome⟩
    cases outcome with
    | error fault => exact inductionHypothesis memory
    | ok usages =>
      intro notice member
      rw [takeSweeps] at member
      rcases List.mem_append.mp member with member | member
      · exact kind_of_takeSweep settings host containers memory usages notice member
      · exact inductionHypothesis _ notice member

end Memory

/-! ## What the listings of a run show -/

/-- A listing has the container, running or not. -/
def Shows (containers : List Container) (id : String) (runs : Bool) : Prop :=
  ∃ container ∈ containers, container.id = id ∧ container.running = runs

/-- A listing has the container in the opposite state of the one before. -/
def Changed (previous listed : Option (List Container)) (id : String) (runs : Bool) : Prop :=
  ∃ before now, previous = some before ∧ listed = some now ∧
    Shows before id (!runs) ∧ Shows now id runs

/-- The kind of alert for a container that now runs or does not. -/
def changeKind (runs : Bool) : Kind :=
  if runs then .started else .stopped

/-- Every listing has each container once. -/
def View.DistinctIds (view : View) : Prop :=
  ∀ host containers, view.listings.get? host = some containers →
    (containers.map Container.id).Nodup

theorem changeKind_injective {first second : Bool}
    (same : changeKind first = changeKind second) : first = second := by
  cases first <;> cases second <;> first | rfl | cases same

/-- Where every id is listed once, the one entry tells the state. -/
theorem stateIn_of_mem {containers : List Container}
    (distinct : (containers.map Container.id).Nodup) {container : Container}
    (member : container ∈ containers) :
    stateIn containers container.id = some container.running := by
  induction containers with
  | nil => cases member
  | cons first later inductionHypothesis =>
    rcases List.nodup_cons.mp distinct with ⟨absent, laterDistinct⟩
    rw [stateIn_cons]
    rcases List.mem_cons.mp member with rfl | member
    · have unlisted : stateIn later container.id = none := by
        rw [← Option.not_isSome_iff_eq_none, isSome_stateIn, List.any_eq_true]
        rintro ⟨other, among, same⟩
        exact absent (of_decide_eq_true same ▸ List.mem_map_of_mem among)
      rw [unlisted, if_pos rfl, Option.none_or]
    · rw [inductionHypothesis laterDistinct member, Option.some_or]

theorem stateIn_eq_some {containers : List Container}
    (distinct : (containers.map Container.id).Nodup) {id : String} {runs : Bool} :
    stateIn containers id = some runs ↔ Shows containers id runs := by
  constructor
  · intro shown
    have listed : (stateIn containers id).isSome = true := by rw [shown]; rfl
    rw [isSome_stateIn, List.any_eq_true] at listed
    rcases listed with ⟨container, member, same⟩
    have same := of_decide_eq_true same
    subst same
    rw [stateIn_of_mem distinct member] at shown
    exact ⟨container, member, rfl, Option.some.inj shown⟩
  · rintro ⟨container, member, rfl, rfl⟩
    exact stateIn_of_mem distinct member

theorem turned_of_mem {containers : List Container}
    (distinct : (containers.map Container.id).Nodup) {container : Container}
    (member : container ∈ containers) (known : Option Bool) :
    turned known containers container.id =
      if known = some (!container.running) then [container] else [] := by
  induction containers with
  | nil => cases member
  | cons first later inductionHypothesis =>
    rcases List.nodup_cons.mp distinct with ⟨absent, laterDistinct⟩
    rcases List.mem_cons.mp member with rfl | member
    · have rest := turned_of_unlisted absent known
      rw [turned] at rest ⊢
      rw [List.filter_cons, rest]
      simp
    · have different : first.id ≠ container.id := by
        intro same
        exact absent (same ▸ List.mem_map_of_mem member)
      rw [turned, List.filter_cons_of_neg]
      · exact inductionHypothesis laterDistinct member
      · rw [decide_eq_true_iff]
        exact fun both => different both.1

/-- One alert of a kind stands for one listed container in the state of the kind,
known in the other before. -/
theorem kinds_of_turned (host : String) {containers : List Container}
    (distinct : (containers.map Container.id).Nodup) (known : Option Bool) (id : String)
    (runs : Bool) :
    ((turned known containers id).map (Memory.changeNotice host)).map Notice.kind =
        [changeKind runs] ↔
      known = some (!runs) ∧ Shows containers id runs := by
  constructor
  · intro one
    have nonempty : turned known containers id ≠ [] := by
      intro none
      rw [none] at one
      cases one
    rcases List.exists_mem_of_ne_nil _ nonempty with ⟨container, found⟩
    rcases List.mem_filter.mp found with ⟨member, both⟩
    rcases of_decide_eq_true both with ⟨rfl, opposite⟩
    rw [turned_of_mem distinct member, if_pos opposite] at one
    have same := changeKind_injective (List.singleton_inj.mp one)
    subst same
    exact ⟨opposite, container, member, rfl, rfl⟩
  · rintro ⟨opposite, container, member, rfl, rfl⟩
    rw [turned_of_mem distinct member, if_pos opposite]
    rfl

/-- An entry that turned is one of a listing. -/
theorem listed_of_turned {known : Option Bool} {listed : Option (List Container)} {id : String}
    {container : Container} (member : container ∈ turned known (listed.getD []) id) :
    ∃ containers, listed = some containers ∧ container ∈ containers ∧ container.id = id ∧
      known = some (!container.running) := by
  rcases List.mem_filter.mp member with ⟨among, both⟩
  rcases of_decide_eq_true both with ⟨same, opposite⟩
  cases listed with
  | none => cases among
  | some containers => exact ⟨containers, rfl, among, same, opposite⟩

section Compared

variable {previous listed : Option (List Container)} {id : String}

theorem bind_stateIn_eq_some
    (distinct : ∀ before, previous = some before → (before.map Container.id).Nodup)
    {runs : Bool} : previous.bind (stateIn · id) = some runs ↔
      ∃ before, previous = some before ∧ Shows before id runs := by
  rw [Option.bind_eq_some_iff]
  exact exists_congr fun before =>
    and_congr_right fun last => stateIn_eq_some (distinct before last)

theorem kinds_iff_changed
    (distinctBefore : ∀ before, previous = some before → (before.map Container.id).Nodup)
    (distinctNow : ∀ now, listed = some now → (now.map Container.id).Nodup) (host : String)
    (runs : Bool) :
    ((turned (previous.bind (stateIn · id)) (listed.getD []) id).map
        (Memory.changeNotice host)).map Notice.kind = [changeKind runs] ↔
      Changed previous listed id runs := by
  cases listed with
  | none =>
    apply iff_of_false
    · exact fun one => nomatch one
    · rintro ⟨before, now, -, wrong, -⟩
      cases wrong
  | some containers =>
    rw [Option.getD_some, kinds_of_turned host (distinctNow containers rfl),
      bind_stateIn_eq_some distinctBefore]
    constructor
    · rintro ⟨⟨before, last, shown⟩, shows⟩
      exact ⟨before, containers, last, rfl, shown, shows⟩
    · rintro ⟨before, now, last, same, shown, shows⟩
      cases same
      exact ⟨⟨before, last, shown⟩, shows⟩

theorem turned_of_not_changed
    (distinctBefore : ∀ before, previous = some before → (before.map Container.id).Nodup)
    (unchanged : ∀ runs, ¬ Changed previous listed id runs) :
    turned (previous.bind (stateIn · id)) (listed.getD []) id = [] := by
  rw [List.eq_nil_iff_forall_not_mem]
  intro container member
  rcases listed_of_turned member with ⟨containers, now, among, same, opposite⟩
  rcases (bind_stateIn_eq_some distinctBefore).mp opposite with ⟨before, last, shown⟩
  exact unchanged container.running
    ⟨before, containers, last, now, shown, container, among, same, rfl⟩

end Compared

theorem distinct_of_lastListing {views : List View} (distinct : ∀ view ∈ views, view.DistinctIds)
    (host : String) : ∀ containers, lastListing views host = some containers →
      (containers.map Container.id).Nodup := by
  intro containers last
  rcases List.mem_filterMap.mp (List.mem_of_getLast? last) with ⟨view, member, listed⟩
  exact distinct view member host containers listed

/-- Scans in which a host does not answer leave its last listing as it was. -/
theorem lastListing_outage {views outage : List View} {host : String}
    (unanswered : ∀ view ∈ outage, view.listings.get? host = none) :
    lastListing (views ++ outage) host = lastListing views host := by
  have nothing : (outage.filterMap fun view => view.listings.get? host) = [] :=
    List.filterMap_eq_nil_iff.mpr unanswered
  rw [lastListing, List.filterMap_append, nothing, List.append_nil]
  rfl

/-! ## Scans and runs -/

/-- The changes that a scan tells are those between the last listing and its own. -/
theorem changes_take {memory : Memory} {views : List View} (remembers : Remembers memory views)
    {view : View} (sound : view.Sound) (distinct : view.DistinctIds) (settings : AlertSettings)
    (host id : String) :
    changes host id (view.take settings memory).2 =
      (turned ((lastListing views host).bind (stateIn · id))
        ((view.listings.get? host).getD []) id).map (Memory.changeNotice host) := by
  have silent : changes host id
      (Memory.takeSweeps settings (memory.takeListings view.listings).1 view.sweeps).2 = [] := by
    apply changes_eq_nil
    intro notice member
    rcases Memory.kind_of_takeSweeps settings _ view.sweeps notice member with ⟨measure, kind⟩
    rw [kind]
    cases measure <;> exact ⟨nofun, nofun⟩
  rw [View.take]
  dsimp only
  rw [changes_append, silent, List.append_nil, Memory.changes_takeListings memory sound.distinct]
  cases listed : view.listings.get? host with
  | none => rfl
  | some containers =>
    have known : (memory.part host).running.get? (host, id) = memory.running.get? (host, id) :=
      Table.get?_within _ (Memory.ofHost_self host id)
    rw [Option.getD_some, ← remembers host id, ← known]
    exact Memory.changes_observeAll (memory.part host) host (distinct host containers listed) id

variable {σ : Type} {peers : Peers σ} {fleet : Fleet} {settings : AlertSettings}

theorem Run.changes_eq {scans : List Scan} {monitor : Monitor}
    (run : Run peers fleet settings scans monitor)
    (distinct : ∀ scan ∈ scans, scan.view.DistinctIds) {earlier later : List Scan} {scan : Scan}
    (split : scans = earlier ++ scan :: later) (host id : String) :
    changes host id (scan.alerts.map notice) =
      (turned ((lastListing (earlier.map Scan.view) host).bind (stateIn · id))
        ((scan.view.listings.get? host).getD []) id).map (Memory.changeNotice host) := by
  induction run generalizing later with
  | start fresh =>
    exact absurd split.symm (List.append_ne_nil_of_right_ne_nil earlier (List.cons_ne_nil _ _))
  | @scan scans monitor next now before after view alerts run seen checked inductionHypothesis =>
    rcases snoc_cases split with ⟨-, rfl, rfl⟩ | ⟨others, -, rfl⟩
    · rcases checkOnce_cases seen checked with ⟨sound, rfl, rfl⟩
      have told : (monitor.after now view).2.map notice =
          (view.take monitor.settings monitor.memory).2 := map_notice_number now _ _
      rw [told]
      exact changes_take run.remembers.2 sound
        (distinct _ (List.mem_append_right _ List.mem_cons_self)) monitor.settings host id
    · exact inductionHypothesis
        (fun scan member => distinct scan (List.mem_append_left _ member)) rfl

/-- Alerts of containers that started or stopped are exactly the changes between
the last listing that a host answered and its listing in the scan.  A change gives
one alert, of the kind of the new state and with the text of the new entry; there
is none where the host does not answer, or where its last listing did not have the
container.  Scans that the host missed raise none, and the comparison after them is
with the last listing before them.  There is always a next scan. -/
theorem Run.changes_reported {scans : List Scan} {monitor : Monitor}
    (run : Run peers fleet settings scans monitor)
    (distinct : ∀ scan ∈ scans, scan.view.DistinctIds) :
    (∀ earlier scan later, scans = earlier ++ scan :: later → ∀ host id,
      (∀ runs, (changes host id (scan.alerts.map notice)).map Notice.kind = [changeKind runs] ↔
        Changed (lastListing (earlier.map Scan.view) host) (scan.view.listings.get? host) id runs) ∧
      ((∀ runs, ¬ Changed (lastListing (earlier.map Scan.view) host)
        (scan.view.listings.get? host) id runs) → changes host id (scan.alerts.map notice) = []) ∧
      (∀ told ∈ changes host id (scan.alerts.map notice), ∃ containers container,
        scan.view.listings.get? host = some containers ∧ container ∈ containers ∧
          container.id = id ∧ told = Memory.changeNotice host container) ∧
      ∀ before outage, earlier = before ++ outage →
        (∀ missed ∈ outage, missed.view.listings.get? host = none) →
          lastListing (earlier.map Scan.view) host = lastListing (before.map Scan.view) host ∧
            ∀ missed ∈ outage, changes host id (missed.alerts.map notice) = []) ∧
    ∀ (now : Int) (before : Exchange σ), ∃ view next alerts after,
      look peers fleet before = .ok view after ∧
        monitor.checkOnce peers fleet now before = .ok (next, alerts) after := by
  refine ⟨?_, checkOnce_ok monitor⟩
  intro earlier scan later split host id
  have told := run.changes_eq distinct split host id
  have distinctNow := distinct scan (split ▸ List.mem_append_right _ List.mem_cons_self) host
  have distinctEarlier : ∀ view ∈ earlier.map Scan.view, view.DistinctIds := by
    intro view member
    rcases List.mem_map.mp member with ⟨other, inEarlier, rfl⟩
    exact distinct other (split ▸ List.mem_append_left _ inEarlier)
  have distinctBefore := distinct_of_lastListing distinctEarlier host
  refine ⟨?_, ?_, ?_, ?_⟩
  · intro runs
    rw [told]
    exact kinds_iff_changed distinctBefore distinctNow host runs
  · intro unchanged
    rw [told, turned_of_not_changed distinctBefore unchanged, List.map_nil]
  · intro change member
    rw [told] at member
    rcases List.mem_map.mp member with ⟨container, found, rfl⟩
    rcases listed_of_turned found with ⟨containers, listed, among, same, -⟩
    exact ⟨containers, container, listed, among, same, rfl⟩
  · rintro before outage rfl unanswered
    constructor
    · rw [List.map_append]
      apply lastListing_outage
      intro view member
      rcases List.mem_map.mp member with ⟨missed, inOutage, rfl⟩
      exact unanswered missed inOutage
    · intro missed member
      rcases List.append_of_mem member with ⟨front, back, rfl⟩
      have within : scans = (before ++ front) ++ missed :: (back ++ scan :: later) := by
        rw [split]
        simp only [List.append_assoc, List.cons_append]
      rw [run.changes_eq distinct within host id, unanswered missed member]
      rfl

/-- A daemon whose container stops while it cannot be reached. -/
def outageExchange : Exchange Stage :=
  let listing (state : String) := Response.document
    (.array [.object [("Id", .text "c"), ("State", .text state)]])
  .start (.start [("unix:///a", [("containers", [listing "running", listing "running",
    .failure ⟨.connection, "unreachable"⟩, listing "exited"])])] [])

/-- What a scan sees of a host with one container. -/
def shownView (state : String)
    (sweeps : List (String × List Container × Except Fault (List Stats.Usage))) : View :=
  ⟨[("a", [⟨"c", [], "a", "", "", "", 0, state, "", []⟩])], sweeps⟩

theorem shownView_distinctIds (state : String)
    (sweeps : List (String × List Container × Except Fault (List Stats.Usage))) :
    (shownView state sweeps).DistinctIds := by
  intro host containers listed
  have single : containers = [⟨"c", [], "a", "", "", "", 0, state, "", []⟩] := by
    rw [shownView, Table.get?] at listed
    split at listed
    · exact (Option.some.inj listed).symm
    · cases listed
  rw [single]
  exact List.pairwise_singleton _ _

/-- A stop during an outage is told when the host answers again. -/
theorem Run.one_alert_after_outage : ∃ settings sweeps first second third monitor,
    Run Stage.peers ⟨[⟨"a", "unix:///a"⟩], by decide⟩ settings
      [⟨shownView "running" sweeps, first⟩, ⟨⟨[], []⟩, second⟩, ⟨shownView "exited" [], third⟩]
      monitor ∧
    changes "a" "c" (second.map notice) = [] ∧
    (changes "a" "c" (third.map notice)).map Notice.kind = [.stopped] := by
  let fleet : Fleet := ⟨[⟨"a", "unix:///a"⟩], by decide⟩
  obtain ⟨settings, fresh, decoded, started⟩ : ∃ settings monitor,
      AlertSettings.decode [] = .ok settings ∧ Monitor.ofSettings settings = .ok monitor :=
    ⟨_, _, rfl, rfl⟩
  obtain ⟨sweeps, before, after, last, seenBefore, missed, seenAfter⟩ :
      ∃ sweeps before after last,
        look Stage.peers fleet outageExchange = .ok (shownView "running" sweeps) before ∧
        look Stage.peers fleet before = .ok ⟨[], []⟩ after ∧
        look Stage.peers fleet after = .ok (shownView "exited" []) last :=
    ⟨_, _, _, _, rfl, rfl, rfl⟩
  have checks : ∀ {exchange next : Exchange Stage} {view : View} (monitor : Monitor),
      look Stage.peers fleet exchange = .ok view next → ∃ changed alerts,
        monitor.checkOnce Stage.peers fleet 0 exchange = .ok (changed, alerts) next :=
    fun _ seen => ⟨_, _, checkOnce_of_look Stage.peers seen⟩
  obtain ⟨running, first, checkedFirst⟩ := checks fresh seenBefore
  obtain ⟨waiting, second, checkedSecond⟩ := checks running missed
  obtain ⟨stopped, third, checkedThird⟩ := checks waiting seenAfter
  have run := (((Run.start started).scan seenBefore checkedFirst).scan missed checkedSecond).scan
    seenAfter checkedThird
  have distinct : ∀ scan ∈ [⟨shownView "running" sweeps, first⟩, ⟨⟨[], []⟩, second⟩,
      (⟨shownView "exited" [], third⟩ : Scan)], scan.view.DistinctIds := by
    have nothing : View.DistinctIds ⟨[], []⟩ := by
      intro host containers listed
      cases listed
    simp only [List.forall_mem_cons]
    exact ⟨shownView_distinctIds _ _, nothing, shownView_distinctIds _ _,
      fun _ member => absurd member List.not_mem_nil⟩
  have reported := (changes_reported run distinct).1
    [⟨shownView "running" sweeps, first⟩, ⟨⟨[], []⟩, second⟩] ⟨shownView "exited" [], third⟩ [] rfl
    "a" "c"
  refine ⟨settings, sweeps, first, second, third, stopped, run, ?_, ?_⟩
  · refine (reported.2.2.2 [⟨shownView "running" sweeps, first⟩] [⟨⟨[], []⟩, second⟩] rfl ?_).2
      ⟨⟨[], []⟩, second⟩ List.mem_cons_self
    exact List.forall_mem_singleton.mpr rfl
  · exact (reported.1 false).mpr ⟨_, _, rfl, rfl, ⟨_, List.mem_cons_self, rfl, by decide⟩,
      ⟨_, List.mem_cons_self, rfl, by decide⟩⟩

end Alert
end ContainerFleet
