import ContainerFleet.Connect
import ContainerFleet.Proofs.Outcome

/-!
# Connecting hosts with different names

A host is connected only where its name is not taken by one before it.  Where the names
of all hosts are different this test never speaks: either all hosts are connected, or one
of them could not be reached, and giving up the others does not fail.
-/

namespace ContainerFleet
namespace Connect

open Daemon

variable {σ : Type} (peers : Peers σ)

/-- Giving up connections never fails. -/
theorem close_ok (fleet : Fleet) (before : Exchange σ) :
    ∃ after, fleet.close peers before = .ok () after := by
  unfold Fleet.close
  generalize fleet.hosts = hosts
  induction hosts generalizing before with
  | nil => exact ⟨before, rfl⟩
  | cons host later inductionHypothesis =>
    rcases ignoring_ok (closeClient peers host) before with ⟨middle, closed⟩
    rcases inductionHypothesis middle with ⟨after, rest⟩
    refine ⟨after, ?_⟩
    rw [List.forM, bind_of_ran closed]
    exact rest

theorem add?_of_not_mem {fleet : Fleet} {host : Host} (fresh : host.name ∉ fleet.names) :
    ∃ extended, fleet.add? host = some extended ∧ extended.hosts = fleet.hosts ++ [host] :=
  ⟨_, dif_neg fresh, rfl⟩

theorem causeOf_eq (fault : Fault) : ∃ error, causeOf fault = .peer error := by
  cases fault <;> exact ⟨_, rfl⟩

/-- Hosts with names of their own are all connected, or one of them cannot be reached. -/
theorem connectFrom_cases (connect : Host → Action σ Unit) {fleet : Fleet} {hosts : List Host}
    (distinct : ((fleet.hosts ++ hosts).map Host.name).Nodup) (before : Exchange σ) :
    (∃ connected after, connectFrom peers connect fleet hosts before = .ok connected after ∧
      connected.hosts = fleet.hosts ++ hosts) ∨
    ∃ host ∈ hosts, ∃ error after, connectFrom peers connect fleet hosts before =
      .error (.hostUnreachable host.name host.uri (.peer error)) after := by
  induction hosts generalizing fleet before with
  | nil => exact .inl ⟨fleet, before, rfl, (List.append_nil _).symm⟩
  | cons host later inductionHypothesis =>
    have fresh : host.name ∉ fleet.names := by
      rw [List.map_append, List.map_cons, List.nodup_append] at distinct
      exact fun taken => distinct.2.2 _ taken _ List.mem_cons_self rfl
    rcases add?_of_not_mem fresh with ⟨extended, added, hosts⟩
    rw [connectFrom, added]
    dsimp only
    rcases attempt_cases (connect host) before with
      ⟨value, middle, -, attempted⟩ | ⟨fault, middle, -, attempted⟩
    · rw [bind_of_ran attempted]
      have regrouped : extended.hosts ++ later = fleet.hosts ++ host :: later := by
        rw [hosts, List.append_assoc, List.singleton_append]
      rcases inductionHypothesis (regrouped ▸ distinct) middle with
        ⟨connected, after, ran, all⟩ | ⟨failing, member, error, after, failed⟩
      · exact .inl ⟨connected, after, ran, all.trans regrouped⟩
      · exact .inr ⟨failing, List.mem_cons_of_mem _ member, error, after, failed⟩
    · rw [bind_of_ran attempted]
      rcases close_ok peers fleet middle with ⟨after, closed⟩
      rcases causeOf_eq fault with ⟨error, cause⟩
      refine .inr ⟨host, List.mem_cons_self, error, after, ?_⟩
      dsimp only
      rw [bind_of_ran closed, cause]
      rfl

end Connect
end ContainerFleet
