import ContainerFleet.Fleet.Interleaving
import ContainerFleet.Proofs.Table

/-!
# Where the outcomes are while the hosts report

Every outcome is at each moment in one of three places: with the worker that has
not reported it, in the queue, or with the collector.  The mark is put when no
worker is left and nothing follows it, so that the collector that meets it has all
outcomes, in whatever order they came.
-/

namespace ContainerFleet
namespace Fleet

variable {α : Type}

namespace Gathered

/-- The outcomes that were gathered. -/
def outcomes (gathered : Gathered α) : List (String × Except Fault α) :=
  gathered.results.map (fun entry => (entry.1, .ok entry.2)) ++
    gathered.faults.map fun entry => (entry.1, .error entry.2)

theorem outcomes_add (gathered : Gathered α) (name : String) (outcome : Except Fault α) :
    (gathered.add name outcome).outcomes.Perm ((name, outcome) :: gathered.outcomes) := by
  cases outcome with
  | ok value =>
    rw [add, outcomes, outcomes, List.map_append, List.append_assoc]
    exact List.perm_middle
  | error fault =>
    rw [add, outcomes, outcomes, List.map_append, ← List.append_assoc]
    exact List.perm_append_singleton _ _

/-- A host is among the answers with the value that it answered. -/
theorem mem_results (gathered : Gathered α) (name : String) (value : α) :
    (name, value) ∈ gathered.results ↔ (name, .ok value) ∈ gathered.outcomes := by
  rw [outcomes, List.mem_append, List.mem_map, List.mem_map]
  constructor
  · exact fun member => .inl ⟨_, member, rfl⟩
  · rintro (⟨⟨_, _⟩, member, same⟩ | ⟨_, _, wrong⟩)
    · cases same
      exact member
    · cases wrong

theorem keys_results (gathered : Gathered α) :
    gathered.results.keys.Sublist (gathered.outcomes.map Prod.fst) := by
  rw [outcomes, List.map_append, List.map_map]
  exact List.sublist_append_left _ _

theorem foldl_add (gathered : Gathered α) (outcomes : List (String × Except Fault α)) :
    outcomes.foldl (fun gathered worker => gathered.add worker.1 worker.2) gathered =
      ⟨gathered.results ++ (ofOutcomes outcomes).results,
        gathered.faults ++ (ofOutcomes outcomes).faults⟩ := by
  induction outcomes generalizing gathered with
  | nil => simp [ofOutcomes, empty]
  | cons worker later inductionHypothesis =>
    rcases worker with ⟨name, outcome⟩
    rw [List.foldl_cons, inductionHypothesis]
    cases outcome <;> simp [add, ofOutcomes, cons]

end Gathered

namespace Gathering

/-- Taking a worker away takes its outcome away. -/
theorem perm_of_lookup {working : List (String × Except Fault α)} {name : String}
    {outcome : Except Fault α} (found : working.lookup name = some outcome) :
    working.Perm ((name, outcome) :: working.eraseP fun worker => worker.1 == name) := by
  induction working with
  | nil => cases found
  | cons worker later inductionHypothesis =>
    rcases worker with ⟨present, other⟩
    by_cases same : present = name
    · subst same
      rw [List.lookup_cons_self] at found
      cases found
      rw [List.eraseP_cons, beq_self_eq_true, cond_true]
    · rw [List.lookup_cons, beq_false_of_ne (Ne.symm same)] at found
      rw [List.eraseP_cons, beq_false_of_ne same, cond_false]
      exact ((inductionHypothesis found).cons _).trans (.swap _ _ _)

namespace State

/-- The reports in the queue, and what holds of them: nothing is lost on the way,
and the mark is the last parcel. -/
structure Kept (outcomes : List (String × Except Fault α)) (state : State α)
    (reports : List (String × Except Fault α)) : Prop where
  queue : state.queue = reports.map (fun report => .report report.1 report.2) ++
    if state.marked && !state.finished then [.allReported] else []
  complete : (state.gathered.outcomes ++ (reports ++ state.working)).Perm outcomes
  idle : state.marked = true → state.working = []
  met : state.finished = true → state.marked = true ∧ reports = []

variable {outcomes reports : List (String × Except Fault α)} {capacity : Nat}
  {before after : State α}

theorem kept_start (outcomes : List (String × Except Fault α)) :
    Kept outcomes (start outcomes) [] where
  queue := by cases outcomes <;> rfl
  complete := .refl _
  idle := List.isEmpty_iff.mp
  met := fun finished => ⟨finished, rfl⟩

theorem Kept.unfinished (kept : Kept outcomes before reports) (pending : before.marked = false) :
    before.finished = false := by
  rw [Bool.eq_false_iff]
  intro finished
  exact absurd (pending.symm.trans (kept.met finished).1) Bool.false_ne_true

/-- Before the mark is put there are only reports in the queue. -/
theorem Kept.queue_of_pending (kept : Kept outcomes before reports)
    (pending : before.marked = false) :
    before.queue = reports.map fun report => .report report.1 report.2 := by
  rw [kept.queue, pending, Bool.false_and, if_neg Bool.false_ne_true, List.append_nil]

/-- A report moves its outcome from the worker into the queue. -/
theorem Kept.report (kept : Kept outcomes before reports) {name : String}
    (stepped : before.report? capacity name = some after) :
    ∃ reports, Kept outcomes after reports := by
  rw [report?] at stepped
  split at stepped
  case h_2 => cases stepped
  case h_1 outcome found =>
    rw [put?] at stepped
    split at stepped
    case isFalse => cases stepped
    cases stepped
    have pending : before.marked = false := by
      rw [Bool.eq_false_iff]
      intro marked
      rw [kept.idle marked] at found
      cases found
    refine ⟨reports ++ [(name, outcome)], ?_, ?_, ?_, ?_⟩
    · dsimp only
      rw [kept.queue_of_pending pending, pending, Bool.false_and, if_neg Bool.false_ne_true,
        List.append_nil, List.map_append]
      rfl
    · refine .trans ?_ kept.complete
      rw [List.append_assoc]
      exact ((perm_of_lookup found).symm.append_left _).append_left _
    · intro marked
      exact absurd (pending.symm.trans marked) Bool.false_ne_true
    · intro finished
      exact absurd ((kept.unfinished pending).symm.trans finished) Bool.false_ne_true

/-- The mark is put when no worker is left. -/
theorem Kept.mark (kept : Kept outcomes before reports)
    (stepped : before.mark? capacity = some after) : ∃ reports, Kept outcomes after reports := by
  rw [mark?] at stepped
  split at stepped
  case isFalse => cases stepped
  case isTrue ready =>
    rw [Bool.and_eq_true, List.isEmpty_iff, Bool.not_eq_true'] at ready
    rcases ready with ⟨idle, pending⟩
    rw [put?] at stepped
    split at stepped
    case isFalse => cases stepped
    cases stepped
    have unfinished := kept.unfinished pending
    refine ⟨reports, ?_, kept.complete, fun _ => idle, ?_⟩
    · dsimp only
      rw [kept.queue_of_pending pending, unfinished]
      rfl
    · intro finished
      exact absurd (unfinished.symm.trans finished) Bool.false_ne_true

/-- Collecting moves an outcome from the queue to the collector, or meets the mark. -/
theorem Kept.collect (kept : Kept outcomes before reports)
    (stepped : before.collect? = some after) : ∃ reports, Kept outcomes after reports := by
  rw [collect?] at stepped
  split at stepped
  case h_2 => cases stepped
  case h_1 parcel later unfinished taken =>
    cases stepped
    have queue := kept.queue
    rw [taken, unfinished, Bool.not_false, Bool.and_true] at queue
    cases reports with
    | nil =>
      -- Only the mark is left in the queue.
      rw [List.map_nil, List.nil_append] at queue
      split at queue
      case isFalse => cases queue
      case isTrue marked =>
        cases queue
        refine ⟨[], ?_, kept.complete, kept.idle, fun _ => ⟨marked, rfl⟩⟩
        simp [receive]
    | cons report reports =>
      rw [List.map_cons, List.cons_append] at queue
      cases queue
      refine ⟨reports, ?_, ?_, kept.idle, ?_⟩
      · simp [receive, unfinished]
      · refine .trans ?_ kept.complete
        refine ((Gathered.outcomes_add _ _ _).append_right _).trans ?_
        exact List.perm_middle.symm
      · intro finished
        exact absurd (unfinished.symm.trans finished) Bool.false_ne_true

theorem Kept.step (kept : Kept outcomes before reports) {move : Move}
    (stepped : before.step? capacity move = some after) :
    ∃ reports, Kept outcomes after reports := by
  cases move with
  | report name => exact kept.report stepped
  | mark => exact kept.mark stepped
  | collect => exact kept.collect stepped

/-- While hosts with these outcomes are asked, every outcome is in one place. -/
theorem Arises.kept {state : State α} (arises : Arises outcomes state) :
    ∃ reports, Kept outcomes state reports :=
  arises.keeps (fun state => ∃ reports, Kept outcomes state reports) ⟨[], kept_start outcomes⟩
    fun _ _ _ ⟨_, kept⟩ stepped => kept.step stepped

/-- The collector that has met the mark has the outcomes of all hosts. -/
theorem Arises.complete {state : State α} (arises : Arises outcomes state)
    (finished : state.finished = true) : state.gathered.outcomes.Perm outcomes := by
  rcases arises.kept with ⟨reports, kept⟩
  rcases kept.met finished with ⟨marked, rfl⟩
  have complete := kept.complete
  rw [kept.idle marked, List.append_nil, List.append_nil] at complete
  exact complete

end State

open State in
/-- In whatever order the hosts report, each is found with the value that it
answered, and no other. -/
theorem results_get? {outcomes : List (String × Except Fault α)} {state : State α}
    (distinct : (outcomes.map Prod.fst).Nodup) (arises : Arises outcomes state)
    (finished : state.finished = true) :
    state.gathered.results.keys.Nodup ∧ ∀ name value,
      state.gathered.results.get? name = some value ↔ (name, .ok value) ∈ outcomes := by
  have complete := arises.complete finished
  have distinctResults : state.gathered.results.keys.Nodup :=
    state.gathered.keys_results.nodup ((complete.map Prod.fst).nodup_iff.mpr distinct)
  refine ⟨distinctResults, fun name value => ?_⟩
  rw [Table.get?_eq_some_iff distinctResults, Gathered.mem_results, complete.mem_iff]

open State in
/-- A host is found with what it answered, and not at all where it failed. -/
theorem results_get?_of_mem {outcomes : List (String × Except Fault α)} {state : State α}
    (distinct : (outcomes.map Prod.fst).Nodup) (arises : Arises outcomes state)
    (finished : state.finished = true) {name : String} {outcome : Except Fault α}
    (member : (name, outcome) ∈ outcomes) :
    state.gathered.results.get? name = outcome.toOption := by
  have found := (results_get? distinct arises finished).2 name
  have only : ∀ value, (name, .ok value) ∈ outcomes ↔ outcome = .ok value := by
    intro value
    rw [← Table.get?_eq_some_iff distinct, (Table.get?_eq_some_iff distinct).mpr member,
      Option.some_inj]
  cases outcome with
  | ok value => exact (found value).mpr member
  | error fault =>
    rw [Except.toOption, Option.eq_none_iff_forall_ne_some]
    intro value listed
    cases (only value).mp ((found value).mp listed)

/-- The hosts report one after another, and each report is collected at once. -/
def inOrder (outcomes : List (String × Except Fault α)) : List Move :=
  outcomes.flatMap fun worker => [.report worker.1, .collect]

namespace State

/-- Reports that are collected as they come are added one after another. -/
theorem run?_in_order {capacity : Nat} (room : 0 < capacity)
    (working : List (String × Except Fault α)) (gathered : Gathered α) :
    run? capacity ⟨working, false, [], gathered, false⟩ (inOrder working) =
      some ⟨[], false, [], working.foldl (fun gathered worker => gathered.add worker.1 worker.2)
        gathered, false⟩ := by
  induction working generalizing gathered with
  | nil => rfl
  | cons worker later inductionHypothesis =>
    rcases worker with ⟨name, outcome⟩
    have reported : report? capacity ⟨(name, outcome) :: later, false, [], gathered, false⟩ name =
        some ⟨later, false, [.report name outcome], gathered, false⟩ := by
      simp [report?, put?, room]
    rw [inOrder, List.flatMap_cons, run?_append, run?, step?, reported, Option.bind_some, run?]
    exact inductionHypothesis (gathered.add name outcome)

end State

/-- The hosts can report in the order in which they are configured. -/
theorem arises_in_order (outcomes : List (String × Except Fault α)) :
    ∃ state, State.Arises outcomes state ∧ state.finished = true ∧
      state.gathered = Gathered.ofOutcomes outcomes := by
  cases outcomes with
  | nil => exact ⟨State.start [], ⟨[], rfl⟩, rfl, rfl⟩
  | cons worker later =>
    have reported := State.run?_in_order (Nat.zero_lt_succ later.length) (worker :: later) .empty
    rw [Gathered.foldl_add] at reported
    refine ⟨⟨[], true, [], _, true⟩, ⟨inOrder (worker :: later) ++ [.mark, .collect], ?_⟩, rfl,
      rfl⟩
    rw [State.run?_append, State.start, List.length_cons]
    exact (congrArg (Option.bind · _) reported).trans rfl

end Gathering
end Fleet
end ContainerFleet
