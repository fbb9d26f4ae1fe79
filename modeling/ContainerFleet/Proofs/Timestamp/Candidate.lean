import ContainerFleet.Proofs.Timestamp.Bare
import ContainerFleet.Proofs.Timestamp.Extract

/-!
# What candidates spell

A candidate spells fields just if its bare text, with a comma before the fraction read
as a point, has one of the forms.  The forms are apart, so that the order in which they
are tried does not matter, and a compact zone with its colon put in is read in the
internet layout only where it stands behind a date and a clock.
-/

namespace ContainerFleet
namespace Timestamp

open Digits

/-! ## Zones without a colon -/

/-- A text from behind, without a line feed, is the text but for its end. -/
theorem text_of_reversed {text back : List Char}
    (backwards : (match text.reverse with
      | '\n' :: rest => rest
      | rest => rest) = back) :
    ∃ rest, Layout.atEnd rest = true ∧ text = back.reverse ++ rest := by
  revert backwards
  split
  · rename_i rest shape
    rintro rfl
    exact ⟨['\n'], rfl, by rw [← List.reverse_cons, ← shape, List.reverse_reverse]⟩
  · rintro rfl
    exact ⟨[], rfl, by rw [List.reverse_reverse, List.append_nil]⟩

theorem isRun_pair {first second : Char} :
    IsRun 2 [first, second] ↔ first.isDigit = true ∧ second.isDigit = true := by
  rw [isRun_cons, isRun_cons, isRun_zero, eq_self_iff_true, and_true]

theorem colonZone?_eq_some_iff {text withColon : List Char} :
    colonZone? text = some withColon ↔
      ∃ front ahead hours minutes rest, IsRun 2 hours ∧ IsRun 2 minutes ∧
        Layout.atEnd rest = true ∧
        text = front ++ Zone.signOf ahead :: (hours ++ minutes) ++ rest ∧
        withColon = front ++ Zone.signOf ahead :: (hours ++ ':' :: minutes) := by
  constructor
  · intro found
    rw [colonZone?] at found
    split at found
    · rename_i d4 d3 d2 d1 sign front back
      split at found
      · rename_i zone
        cases found
        simp only [Bool.and_eq_true, Bool.or_eq_true, decide_eq_true_eq, List.all_cons,
          List.all_nil, and_true] at zone
        rcases zone with ⟨isSign, digit₁, digit₂, digit₃, digit₄⟩
        rcases Zone.eq_signOf isSign with ⟨ahead, rfl⟩
        rcases text_of_reversed back with ⟨rest, ended, shape⟩
        refine ⟨front.reverse, ahead, [d1, d2], [d3, d4], rest, isRun_pair.mpr ⟨digit₁, digit₂⟩,
          isRun_pair.mpr ⟨digit₃, digit₄⟩, ended, ?_, rfl⟩
        rw [shape]
        simp
      · cases found
    · cases found
  · rintro ⟨front, ahead, hours, minutes, rest, runHours, runMinutes, ended, rfl, rfl⟩
    rcases List.length_eq_two.mp runHours.1 with ⟨d1, d2, rfl⟩
    rcases List.length_eq_two.mp runMinutes.1 with ⟨d3, d4, rfl⟩
    rcases isRun_pair.mp runHours with ⟨digit₁, digit₂⟩
    rcases isRun_pair.mp runMinutes with ⟨digit₃, digit₄⟩
    have noFeed : d4 ≠ '\n' := by
      rintro rfl
      exact absurd digit₄ (by decide)
    rcases Layout.atEnd_iff.mp ended with rfl | rfl <;> cases ahead <;>
      simp [colonZone?, Zone.signOf, digit₁, digit₂, digit₃, digit₄, noFeed]

/-- The compact form is read as the internet layout once its zone has a colon. -/
theorem reads_compact_iff {fields : Fields} {text : List Char} :
    Form.compact.Reads fields text ↔
      ∃ withColon, colonZone? text = some withColon ∧
        Form.Reads (.listed .internet) fields withColon := by
  constructor
  · rintro ⟨written, rest, spells, ended, rfl⟩
    rcases Layout.spellAll_split Layout.isoLocal.elements spells with
      ⟨middle, front, back, rfl, spellsFront, ending⟩
    rcases Layout.exists_of_spellAll_cons ending with ⟨_, zone, more, rfl, spellsZone, last⟩
    cases last
    cases spellsZone with
    | compact ahead hour minute =>
      refine ⟨_, colonZone?_eq_some_iff.mpr
        ⟨front, ahead, _, _, rest, hour, minute, ended, ?_, rfl⟩, ?_⟩
      · rw [List.append_nil]
      · exact ⟨_, [], Layout.spellAll_append spellsFront (.cons (.shifted ahead hour minute)
          (.nil _)), rfl, by simp⟩
  · rintro ⟨withColon, colon, written, rest', spells, ended', same⟩
    rcases colonZone?_eq_some_iff.mp colon with
      ⟨front, ahead, hours, minutes, rest, runHours, runMinutes, ended, rfl, rfl⟩
    rcases Layout.spellAll_split Layout.isoLocal.elements spells with
      ⟨middle, front', back, rfl, spellsFront, ending⟩
    rcases Layout.exists_of_spellAll_cons ending with ⟨_, zone, more, rfl, spellsZone, last⟩
    cases last
    rcases List.length_eq_two.mp runHours.1 with ⟨d1, d2, rfl⟩
    rcases List.length_eq_two.mp runMinutes.1 with ⟨d3, d4, rfl⟩
    have digit₄ := (isRun_pair.mp runMinutes).2
    -- The text with the colon ends with a digit, so nothing can stand behind the zone.
    have noFeed : rest' = [] := by
      rcases Layout.atEnd_iff.mp ended' with rfl | rfl
      · rfl
      · have last := congrArg List.getLast? same
        simp at last
        rw [last] at digit₄
        exact absurd digit₄ (by decide)
    subst noFeed
    rw [List.append_nil, List.append_nil] at same
    cases spellsZone with
    | universal =>
      have last := congrArg List.getLast? same
      simp at last
      rw [last] at digit₄
      exact absurd digit₄ (by decide)
    | @shifted ahead' hours' minutes' hour minute =>
      rcases List.length_eq_two.mp hour.1 with ⟨e1, e2, rfl⟩
      rcases List.length_eq_two.mp minute.1 with ⟨e3, e4, rfl⟩
      rcases List.append_inj' same rfl with ⟨rfl, sameZone⟩
      obtain ⟨sameSign, rfl, rfl, rfl, rfl⟩ :
          Zone.signOf ahead = Zone.signOf ahead' ∧ d1 = e1 ∧ d2 = e2 ∧ d3 = e3 ∧ d4 = e4 := by
        simpa using sameZone
      refine ⟨_, rest, Layout.spellAll_append spellsFront (.cons (.compact ahead' hour minute)
        (.nil _)), ended, ?_⟩
      rw [sameSign, List.append_nil]

/-! ## The fields of a candidate -/

theorem Layout.existing?_eq_some_iff {layouts : List Layout} {text : List Char}
    {fields : Fields} :
    existing? layouts text = some fields ↔
      fields.Exist ∧ ∃ layout ∈ layouts, (Form.listed layout).Reads fields text := by
  constructor
  · intro found
    rcases List.exists_of_findSome?_eq_some found with ⟨layout, member, kept⟩
    rcases Option.filter_eq_some_iff.mp kept with ⟨read, exist⟩
    exact ⟨of_decide_eq_true exist, layout, member, Form.reads_listed_iff.mpr read⟩
  · rintro ⟨exist, layout, member, reads⟩
    have kept : (layout.fields? text).filter (·.Exist) = some fields := by
      rw [Form.reads_listed_iff.mp reads, Option.filter_some, if_pos (decide_eq_true exist)]
    cases found : existing? layouts text with
    | none =>
      have missed := List.findSome?_eq_none_iff.mp found layout member
      rw [kept] at missed
      cases missed
    | some others =>
      rcases List.exists_of_findSome?_eq_some found with ⟨other, -, keptOther⟩
      have readOther := (Option.filter_eq_some_iff.mp keptOther).1
      exact congrArg some (Form.reads_unique (Form.reads_listed_iff.mpr readOther) reads).2

theorem spelled?_eq_some_iff {candidate : List Char} {fields : Fields} :
    spelled? candidate = some fields ↔
      fields.Exist ∧ ∃ form : Form, form.Reads fields (pointFraction (undecorated candidate)) := by
  rw [spelled?]
  generalize pointFraction (undecorated candidate) = text
  constructor
  · intro found
    rcases Option.or_eq_some_iff.mp found with found | ⟨-, found⟩
    · rcases Layout.existing?_eq_some_iff.mp found with ⟨exist, layout, -, reads⟩
      exact ⟨exist, .listed layout, reads⟩
    · rcases Option.bind_eq_some_iff.mp found with ⟨withColon, colon, found⟩
      rcases Layout.existing?_eq_some_iff.mp found with ⟨exist, layout, member, reads⟩
      rw [List.mem_singleton.mp member] at reads
      exact ⟨exist, .compact, reads_compact_iff.mpr ⟨withColon, colon, reads⟩⟩
  · rintro ⟨exist, form, reads⟩
    cases form with
    | listed layout =>
      have every : layout ∈ Layout.all := by cases layout <;> decide
      rw [Layout.existing?_eq_some_iff.mpr ⟨exist, layout, every, reads⟩]
      rfl
    | compact =>
      have others : Layout.existing? Layout.all text = none := by
        cases found : Layout.existing? Layout.all text with
        | none => rfl
        | some fields' =>
          rcases Layout.existing?_eq_some_iff.mp found with ⟨-, layout, -, reads'⟩
          cases (Form.reads_unique reads reads').1
      rcases reads_compact_iff.mp reads with ⟨withColon, colon, readsColon⟩
      rw [others, colon]
      exact Layout.existing?_eq_some_iff.mpr ⟨exist, .internet, List.mem_singleton_self _, readsColon⟩

/-- A text that a form spells is a candidate of its own, and says what it spells. -/
theorem spelled?_of_spells {form : Form} {fields : Fields} {text opening rest : List Char}
    (opens : ∀ char ∈ opening, isBracket char = true)
    (closes : (rest.rdropWhile Text.isBlank).rdropWhile isBracket = [])
    (spells : form.Spells fields text) (exist : fields.Exist) :
    spelled? (opening ++ text ++ rest) = some fields := by
  rw [spelled?_eq_some_iff, undecorated_of_solid opens (Form.startsSolid_of_spells spells)
    (Form.endsSolid_of_spells spells), closes, List.append_nil,
    pointFraction_of_noComma (Form.noComma_of_spells spells)]
  exact ⟨exist, form, text, [], spells, rfl, (List.append_nil text).symm⟩

end Timestamp
end ContainerFleet
