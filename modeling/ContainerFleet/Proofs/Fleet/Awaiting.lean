import ContainerFleet.Proofs.Fleet.Workers
import Mathlib.Data.List.Forall2
import Mathlib.Data.List.Nodup

/-!
# Waiting for workers that talk at the same time

Workers that talk at the same time are waited for together.  If all of them come to a value,
the values are there in the order of the workers, whatever the order of their turns.  If one
ends with a fault, this fault is what comes of the waiting, and what the others have still to
say is not waited for.

In every order the waiting ends one way or the other.  `Awaited.value_of` and
`Awaited.fault_of` say that nothing else comes out than what the workers themselves come to.
`Awaited.cons` and `Awaited.fails` put an order together in
which one worker after the other has its say.
-/

namespace ContainerFleet

open Daemon

/-- Whatever is said, an answer can be given to it, so a dialogue can be held to its end. -/
theorem Daemon.Dialogue.exists_runs {α : Type} (dialogue : Dialogue α) :
    ∃ turns outcome, dialogue.Runs turns outcome := by
  induction dialogue with
  | done outcome => exact ⟨[], outcome, .done outcome⟩
  | ask call next inductionHypothesis =>
    rcases inductionHypothesis (.error ⟨.failure, ""⟩) with ⟨turns, outcome, runs⟩
    exact ⟨_, outcome, .ask _ runs⟩

namespace Fleet

variable {α : Type}

/-- What comes of waiting for some workers, and what has been said until then. -/
inductive Awaited (workers : List (String × Dialogue α)) :
    List (String × Turn) → Except Fault (List α) → Prop
  /-- All have come to a value. -/
  | all {spoken : List (String × Turn)} {outcomes : List (String × Except Fault α)}
      {values : List α} : Interleaved workers spoken outcomes →
      outcomes.map Prod.snd = values.map .ok → Awaited workers spoken (.ok values)
  /-- One has ended with a fault.  The others may have something to say later. -/
  | failed {spoken later : List (String × Turn)} {outcomes : List (String × Except Fault α)}
      {name : String} {fault : Fault} : Interleaved workers (spoken ++ later) outcomes →
      (name, .error fault) ∈ outcomes → turnsOf name later = [] →
      Awaited workers spoken (.error fault)

namespace Interleaved

variable {workers : List (String × Dialogue α)} {spoken : List (String × Turn)}
  {outcomes : List (String × Except Fault α)}

theorem exists_of (workers : List (String × Dialogue α)) :
    ∃ spoken outcomes, Interleaved workers spoken outcomes := by
  induction workers with
  | nil => exact ⟨[], [], .done []⟩
  | cons worker later inductionHypothesis =>
    rcases worker.2.exists_runs with ⟨turns, outcome, runs⟩
    rcases inductionHypothesis with ⟨spoken, outcomes, interleaved⟩
    exact ⟨_, _, .cons runs interleaved⟩

/-- What a worker with a name comes to is the outcome of its own dialogue. -/
theorem runs_to (interleaved : Interleaved workers spoken outcomes)
    (distinct : (workers.map Prod.fst).Nodup) {name : String} {dialogue : Dialogue α}
    {outcome : Except Fault α} (member : (name, dialogue) ∈ workers)
    (came : (name, outcome) ∈ outcomes) : dialogue.Runs (turnsOf name spoken) outcome := by
  rcases interleaved.runs distinct member with ⟨other, found, runs⟩
  rw [interleaved.names] at distinct
  cases List.inj_on_of_nodup_map distinct came found rfl
  exact runs

/-- The outcomes are those of the workers, in order. -/
theorem all_run (interleaved : Interleaved workers spoken outcomes)
    (distinct : (workers.map Prod.fst).Nodup) :
    List.Forall₂ (fun worker outcome => worker.2.Runs (turnsOf worker.1 spoken) outcome.2)
      workers outcomes := by
  have names : List.Forall₂ (fun worker outcome => worker.1 = outcome.1) workers outcomes := by
    have same : List.Forall₂ Eq (workers.map Prod.fst) (outcomes.map Prod.fst) := by
      rw [List.forall₂_eq_eq_eq]
      exact interleaved.names
    exact List.forall₂_map_left_iff.mp (List.forall₂_map_right_iff.mp same)
  rw [List.forall₂_iff_zip]
  refine ⟨names.length_eq, ?_⟩
  rintro ⟨name, dialogue⟩ ⟨other, outcome⟩ both
  obtain rfl : name = other := List.forall₂_zip names both
  rcases List.of_mem_zip both with ⟨member, came⟩
  exact interleaved.runs_to distinct member came

end Interleaved

namespace Awaited

variable {workers : List (String × Dialogue α)} {spoken : List (String × Turn)}

/-- In every order in which all have their say the waiting ends. -/
theorem exists_of_interleaved {outcomes : List (String × Except Fault α)}
    (interleaved : Interleaved workers spoken outcomes) :
    ∃ result, Awaited workers spoken result := by
  have settled : (∃ name fault, (name, .error fault) ∈ outcomes) ∨
      ∃ values : List α, outcomes.map Prod.snd = values.map .ok := by
    clear interleaved
    induction outcomes with
    | nil => exact .inr ⟨[], rfl⟩
    | cons outcome later inductionHypothesis =>
      rcases outcome with ⟨name, fault | value⟩
      · exact .inl ⟨name, fault, List.mem_cons_self⟩
      · rcases inductionHypothesis with ⟨other, fault, member⟩ | ⟨values, same⟩
        · exact .inl ⟨other, fault, List.mem_cons_of_mem _ member⟩
        · exact .inr ⟨value :: values, congrArg (Except.ok value :: ·) same⟩
  rcases settled with ⟨name, fault, came⟩ | ⟨values, same⟩
  · rw [← List.append_nil spoken] at interleaved
    exact ⟨_, .failed interleaved came rfl⟩
  · exact ⟨_, .all interleaved same⟩

/-- The values are those that the workers come to, in order. -/
theorem value_of {values : List α} (awaited : Awaited workers spoken (.ok values))
    (distinct : (workers.map Prod.fst).Nodup) :
    List.Forall₂ (fun worker value => worker.2.Runs (turnsOf worker.1 spoken) (.ok value))
      workers values := by
  cases awaited with
  | @all outcomes _ interleaved same =>
    have run : List.Forall₂ (fun worker outcome => worker.2.Runs (turnsOf worker.1 spoken) outcome)
        workers (outcomes.map Prod.snd) :=
      List.forall₂_map_right_iff.mpr (interleaved.all_run distinct)
    rw [same] at run
    exact List.forall₂_map_right_iff.mp run

/-- A fault is one with which some worker has ended. -/
theorem fault_of {fault : Fault} (awaited : Awaited workers spoken (.error fault))
    (distinct : (workers.map Prod.fst).Nodup) :
    ∃ worker ∈ workers, worker.2.Runs (turnsOf worker.1 spoken) (.error fault) := by
  cases awaited with
  | @failed later outcomes name _ interleaved came silent =>
    have known : name ∈ workers.map Prod.fst := by
      rw [interleaved.names]
      exact List.mem_map_of_mem came
    rcases List.mem_map.mp known with ⟨worker, member, rfl⟩
    have runs := interleaved.runs_to distinct member came
    rw [turnsOf_append, silent, List.append_nil] at runs
    exact ⟨worker, member, runs⟩

variable {name : String} {dialogue : Dialogue α} {turns : List Turn}

/-- One worker may come to its value before the others begin. -/
theorem cons {value : α} {result : Except Fault (List α)}
    (runs : dialogue.Runs turns (.ok value)) (awaited : Awaited workers spoken result) :
    Awaited ((name, dialogue) :: workers) (turns.map (name, ·) ++ spoken)
      (result.map (value :: ·)) := by
  cases awaited with
  | all interleaved same =>
    refine .all (interleaved.cons runs) ?_
    rw [List.map_cons, same, List.map_cons]
  | @failed later outcomes failing fault interleaved came silent =>
    have whole : Interleaved ((name, dialogue) :: workers) _ _ := interleaved.cons runs
    rw [← List.append_assoc] at whole
    exact .failed whole (List.mem_cons_of_mem _ came) silent

/-- One worker may end with a fault before the others begin. -/
theorem fails {fault : Fault} (runs : dialogue.Runs turns (.error fault))
    (absent : name ∉ workers.map Prod.fst) :
    Awaited ((name, dialogue) :: workers) (turns.map (name, ·)) (.error fault) := by
  rcases Interleaved.exists_of workers with ⟨later, outcomes, interleaved⟩
  exact .failed (interleaved.cons runs) List.mem_cons_self (interleaved.silent absent)

end Awaited
end Fleet
end ContainerFleet
