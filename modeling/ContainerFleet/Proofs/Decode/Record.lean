import ContainerFleet.Decode.Record

/-!
# Decoded members

When a member of a record can be decoded, and to what: it is absent and has its default,
or it is there and its document decodes to a value that is accepted.
-/

namespace ContainerFleet
namespace Decode

variable {α : Type} {value : α}

theorem Checked.within_eq_ok_iff {step : Step} {checked : Checked α} :
    checked.within step = .ok value ↔ checked = .ok value := by
  cases checked with
  | ok found => exact Iff.rfl
  | failed issues =>
    constructor
    · rintro ⟨⟩
    · rintro ⟨⟩

theorem ensure_eq_ok_iff {decoder : Decoder α} {holds : α → Bool} {problem : Problem}
    {document : Json} :
    ensure decoder holds problem document = .ok value ↔
      decoder document = .ok value ∧ holds value = true := by
  rw [ensure]
  cases decoder document with
  | failed issues =>
    constructor
    · rintro ⟨⟩
    · rintro ⟨⟨⟩, -⟩
  | ok found =>
    change (if holds found then Checked.ok found else .problem problem) = .ok value ↔ _
    constructor
    · intro decoded
      split at decoded
      · rename_i held
        cases decoded
        exact ⟨rfl, held⟩
      · cases decoded
    · rintro ⟨same, held⟩
      cases same
      exact if_pos held

theorem withDefault_eq_ok_iff {members : Members} {name : String} {decoder : Decoder α}
    {default : α} :
    withDefault members name decoder default = .ok value ↔
      (∃ document, members.lookup name = some document ∧ decoder document = .ok value) ∨
      (members.lookup name = none ∧ value = default) := by
  rw [withDefault]
  cases found : members.lookup name with
  | none =>
    constructor
    · rintro ⟨⟩
      exact .inr ⟨rfl, rfl⟩
    · rintro (⟨_, ⟨⟩, -⟩ | ⟨-, rfl⟩)
      rfl
  | some document =>
    rw [Checked.within_eq_ok_iff]
    constructor
    · intro decoded
      exact .inl ⟨document, rfl, decoded⟩
    · rintro (⟨_, same, decoded⟩ | ⟨⟨⟩, -⟩)
      cases same
      exact decoded

end Decode
end ContainerFleet
