import ContainerFleet.Proofs.Daemon.Dialogue

/-!
# Workers that talk at the same time

Each worker holds a dialogue with the daemon of one host.  Any worker that has
something to ask may be the next to take a turn, so that all orders arise and nothing
is assumed of what the daemons answer.  In every order each worker holds its own
dialogue: what the others say falls between its turns and changes none of them.
-/

namespace ContainerFleet
namespace Fleet

open Daemon

variable {α : Type}

/-- Workers with names take these turns, in some order, and come to these outcomes. -/
inductive Interleaved : List (String × Dialogue α) → List (String × Turn) →
    List (String × Except Fault α) → Prop
  /-- No worker has anything left to ask. -/
  | done (outcomes : List (String × Except Fault α)) :
      Interleaved (outcomes.map fun worker => (worker.1, .done worker.2)) [] outcomes
  /-- Any worker takes a turn. -/
  | turn (front : List (String × Dialogue α)) {back : List (String × Dialogue α)} {name : String}
      {call : Call} {next : Except PeerError call.Answer → Dialogue α}
      (answer : Except PeerError call.Answer) {spoken : List (String × Turn)}
      {outcomes : List (String × Except Fault α)} :
      Interleaved (front ++ (name, next answer) :: back) spoken outcomes →
      Interleaved (front ++ (name, .ask call next) :: back) ((name, ⟨call, answer⟩) :: spoken)
        outcomes

/-- The turns of one worker, in order. -/
def turnsOf (name : String) (spoken : List (String × Turn)) : List Turn :=
  (spoken.filter fun said => said.1 == name).map Prod.snd

theorem turnsOf_append (name : String) (first second : List (String × Turn)) :
    turnsOf name (first ++ second) = turnsOf name first ++ turnsOf name second := by
  rw [turnsOf, List.filter_append, List.map_append]
  rfl

theorem turnsOf_cons_self (name : String) (turn : Turn) (spoken : List (String × Turn)) :
    turnsOf name ((name, turn) :: spoken) = turn :: turnsOf name spoken := by
  simp [turnsOf]

theorem turnsOf_cons_of_ne {name other : String} (different : other ≠ name) (turn : Turn)
    (spoken : List (String × Turn)) :
    turnsOf name ((other, turn) :: spoken) = turnsOf name spoken := by
  simp [turnsOf, different]

namespace Interleaved

variable {workers : List (String × Dialogue α)} {spoken : List (String × Turn)}
  {outcomes : List (String × Except Fault α)}

theorem names (interleaved : Interleaved workers spoken outcomes) :
    workers.map Prod.fst = outcomes.map Prod.fst := by
  induction interleaved with
  | done outcomes => rw [List.map_map]; rfl
  | turn front answer _ inductionHypothesis =>
    rw [← inductionHypothesis, List.map_append, List.map_append]
    rfl

/-- Whoever is no worker takes no turn. -/
theorem silent (interleaved : Interleaved workers spoken outcomes) {name : String}
    (absent : name ∉ workers.map Prod.fst) : turnsOf name spoken = [] := by
  induction interleaved with
  | done outcomes => rfl
  | @turn front back other call next answer spoken outcomes _ inductionHypothesis =>
    rw [List.map_append, List.map_cons] at absent inductionHypothesis
    have different : other ≠ name := by
      rintro rfl
      exact absent (List.mem_append_right _ List.mem_cons_self)
    rw [turnsOf_cons_of_ne different]
    exact inductionHypothesis absent

/-- In every order a worker holds its own dialogue. -/
theorem runs (interleaved : Interleaved workers spoken outcomes)
    (distinct : (workers.map Prod.fst).Nodup) {name : String} {dialogue : Dialogue α}
    (member : (name, dialogue) ∈ workers) :
    ∃ outcome, (name, outcome) ∈ outcomes ∧ dialogue.Runs (turnsOf name spoken) outcome := by
  induction interleaved generalizing dialogue with
  | done outcomes =>
    rcases List.mem_map.mp member with ⟨⟨_, outcome⟩, found, same⟩
    cases same
    exact ⟨outcome, found, .done outcome⟩
  | @turn front back other call next answer spoken outcomes _ inductionHypothesis =>
    rw [List.map_append, List.map_cons] at distinct inductionHypothesis
    have others : ∀ {worker : Dialogue α}, (name, worker) ∈ front ++ back → other ≠ name := by
      intro worker among
      rintro rfl
      have apart := (List.nodup_cons.mp (List.perm_middle.nodup_iff.mp distinct)).1
      rw [← List.map_append] at apart
      exact apart (List.mem_map.mpr ⟨_, among, rfl⟩)
    rcases List.mem_append.mp member with inFront | behind
    · rw [turnsOf_cons_of_ne (others (List.mem_append_left _ inFront))]
      exact inductionHypothesis distinct (List.mem_append_left _ inFront)
    · rcases List.mem_cons.mp behind with same | inBack
      · cases same
        rcases inductionHypothesis distinct (List.mem_append_right _ List.mem_cons_self) with
          ⟨outcome, found, runs⟩
        rw [turnsOf_cons_self]
        exact ⟨outcome, found, .ask answer runs⟩
      · rw [turnsOf_cons_of_ne (others (List.mem_append_right _ inBack))]
        exact inductionHypothesis distinct
          (List.mem_append_right _ (List.mem_cons_of_mem _ inBack))

/-- One worker may hold its whole dialogue before the others begin. -/
theorem cons {name : String} {dialogue : Dialogue α} {turns : List Turn}
    {outcome : Except Fault α} (runs : dialogue.Runs turns outcome)
    (interleaved : Interleaved workers spoken outcomes) :
    Interleaved ((name, dialogue) :: workers) (turns.map (name, ·) ++ spoken)
      ((name, outcome) :: outcomes) := by
  induction runs with
  | done outcome =>
    rw [List.map_nil, List.nil_append]
    induction interleaved with
    | done outcomes => exact .done ((name, outcome) :: outcomes)
    | @turn front back other call next answer spoken outcomes _ inductionHypothesis =>
      exact .turn ((name, .done outcome) :: front) answer inductionHypothesis
  | ask answer _ inductionHypothesis =>
    exact .turn [] answer inductionHypothesis

end Interleaved
end Fleet
end ContainerFleet
