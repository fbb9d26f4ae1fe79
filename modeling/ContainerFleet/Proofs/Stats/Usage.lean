import ContainerFleet.Proofs.Number.Binary64
import ContainerFleet.Proofs.Outcome
import ContainerFleet.Stats.Usage

/-!
# Figures are numbers

The shares that are derived from a snapshot can always be compared with a
threshold, however large the counters of the snapshot are.
-/

namespace ContainerFleet
namespace Stats

open Binary64

/-- Both shares of a container can be compared with others. -/
def Usage.Comparable (usage : Usage) : Prop :=
  IsNumber usage.cpuPercent ∧ IsNumber usage.memoryPercent

theorem isNumber_zero : IsNumber 0.0 := by
  decide +kernel

theorem Snapshot.isNumber_cpuPercent {snapshot : Snapshot} {percent : Float}
    (derived : snapshot.cpuPercent = .ok percent) : IsNumber percent := by
  rw [cpuPercent] at derived
  split at derived
  · cases derived
    exact isNumber_zero
  · rcases ok_of_bind derived with ⟨share, divided, derived⟩
    rcases ok_of_bind derived with ⟨processors, counted, derived⟩
    cases derived
    exact isNumber_percent (isNumber_mul (isFinite_of_divide divided) (isFinite_of_ofInt counted))

theorem Snapshot.isNumber_memoryPercent {snapshot : Snapshot} {percent : Float}
    (derived : snapshot.memoryPercent = .ok percent) : IsNumber percent := by
  rw [memoryPercent] at derived
  split at derived
  · cases derived
    exact isNumber_zero
  · rcases ok_of_bind derived with ⟨share, divided, derived⟩
    cases derived
    exact isNumber_percent (isNumber_of_isFinite (isFinite_of_divide divided))

/-- The figures of a document belong to the container that was asked for, and
can be compared. -/
theorem of_usageOf {document : Json} {containerId host : String} {usage : Usage}
    (read : usageOf document containerId host = .ok usage) :
    usage.containerId = containerId ∧ usage.host = host ∧ usage.Comparable := by
  rw [usageOf] at read
  cases decoded : Snapshot.decode document with
  | failed issues =>
    rw [decoded] at read
    cases read
  | ok snapshot =>
    simp only [decoded] at read
    cases derived : snapshot.usage containerId host with
    | error error =>
      rw [derived] at read
      cases read
    | ok found =>
      rw [derived] at read
      cases read
      rcases ok_of_bind derived with ⟨cpuPercent, cpu, derived⟩
      rcases ok_of_bind derived with ⟨memoryPercent, memory, derived⟩
      rcases ok_of_bind derived with ⟨second, -, derived⟩
      cases derived
      exact ⟨rfl, rfl, Snapshot.isNumber_cpuPercent cpu, Snapshot.isNumber_memoryPercent memory⟩

end Stats
end ContainerFleet
