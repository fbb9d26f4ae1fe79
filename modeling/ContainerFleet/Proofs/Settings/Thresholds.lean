import ContainerFleet.Proofs.Decode.Record
import ContainerFleet.Proofs.Number.Binary64
import ContainerFleet.Proofs.Outcome
import ContainerFleet.Settings.Basic

/-!
# Thresholds are numbers

A setting that must not be below or above a bound is compared with it, so it is
a number.  Both thresholds are checked in this way, and their defaults pass.
-/

namespace ContainerFleet

open Binary64 Decode

/-- What was found not to be below a bound is a number. -/
theorem Decode.isNumber_of_ensure {decoder : Decoder Float} {bound : Float} {problem : Problem}
    {document : Json} {value : Float}
    (decoded : ensure decoder (bound ≤ ·) problem document = .ok value) : IsNumber value := by
  have held := (ensure_eq_ok_iff.mp decoded).2
  exact (isNumber_of_le (of_decide_eq_true held)).2

/-- So is the member of a record, where the value for its absence is one. -/
theorem Decode.isNumber_of_withDefault {members : Members} {name : String}
    {decoder : Decoder Float} {bound : Float} {problem : Problem} {default value : Float}
    (standard : IsNumber default)
    (decoded : withDefault members name (ensure decoder (bound ≤ ·) problem) default = .ok value) :
    IsNumber value := by
  rcases withDefault_eq_ok_iff.mp decoded with ⟨document, -, accepted⟩ | ⟨-, rfl⟩
  · exact isNumber_of_ensure accepted
  · exact standard

namespace AlertSettings

/-- Both thresholds can be compared with figures. -/
def Comparable (settings : AlertSettings) : Prop :=
  IsNumber settings.cpuThreshold ∧ IsNumber settings.memoryThreshold

theorem comparable_of_decode {members : Members} {settings : AlertSettings}
    (decoded : decode members = .ok settings) : settings.Comparable := by
  rw [decode] at decoded
  rcases Checked.ok_of_seq decoded with ⟨withoutSize, _, withoutSize_ok, -, built⟩
  rcases Checked.ok_of_seq withoutSize_ok with ⟨withoutTimeout, _, withoutTimeout_ok, -, rfl⟩
  rcases Checked.ok_of_seq withoutTimeout_ok with ⟨withoutUrl, _, withoutUrl_ok, -, rfl⟩
  rcases Checked.ok_of_seq withoutUrl_ok with ⟨withoutInterval, _, withoutInterval_ok, -, rfl⟩
  rcases Checked.ok_of_seq withoutInterval_ok with ⟨withoutMemory, _, withoutMemory_ok, memory, rfl⟩
  rcases Checked.ok_of_seq withoutMemory_ok with ⟨withoutCpu, _, withoutCpu_ok, cpu, rfl⟩
  rcases Checked.ok_of_map withoutCpu_ok with ⟨enabled, -, rfl⟩
  subst built
  constructor
  · exact isNumber_of_withDefault (by decide +kernel) cpu
  · exact isNumber_of_withDefault (by decide +kernel) memory

end AlertSettings
end ContainerFleet
