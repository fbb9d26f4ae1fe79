import ContainerFleet.Proofs.Timestamp.Heeded

/-!
# Moments that candidates denote

A candidate denotes a moment just if its bare text has one of the forms and says a date
and a time of day that exist, with a zone of less than a day.  The moment is then that
time of day on that date, less the zone.  The minutes of the zone are not bounded by
themselves: up to ninety-nine of them are taken, as long as the zone is less than a day.
-/

namespace ContainerFleet
namespace Timestamp

open Digits

/-- A fraction that is spelled consists of digits. -/
theorem Layout.allDigits_of_spellAll {elements : List Element} {before after : Fields}
    {written : List Char} (spells : SpellAll elements before after written)
    (digits : AllDigits before.fraction) : AllDigits after.fraction := by
  induction spells with
  | nil => exact digits
  | cons first _ inductionHypothesis =>
    refine inductionHypothesis ?_
    cases first with
    | fraction present all => exact all
    | literal | year | month | monthName | weekday | day | looseDay | clock | whole | universal |
      shifted | compact | zoneName => exact digits

theorem Form.allDigits_of_reads {form : Form} {fields : Fields} {text : List Char}
    (reads : form.Reads fields text) : AllDigits fields.fraction := by
  rcases reads with ⟨written, rest, spells, -, -⟩
  exact Layout.allDigits_of_spellAll spells (fun _ member => nomatch member)

/-- A zone is less than a day just if its hours and minutes together are. -/
theorem Zone.exists_iff {zone : Zone} :
    zone.Exists ↔ ∀ ahead hours minutes, zone = .shifted ahead hours minutes →
      hours < 24 ∧ hours * 60 + minutes < 24 * 60 := by
  cases zone with
  | universal => exact iff_of_true (by decide) fun _ _ _ wrong => nomatch wrong
  | shifted ahead hours minutes =>
    constructor
    · rintro size _ _ _ ⟨⟩
      exact ⟨Nat.lt_of_mul_lt_mul_right (Nat.lt_of_le_of_lt (Nat.le_add_right _ _) size), size⟩
    · intro bounds
      exact (bounds ahead hours minutes rfl).2

/-- A candidate denotes a moment just if it spells, in one of the forms, a date, a time of
day and a zone that exist and that make up the moment. -/
theorem ofCandidate_eq_some_iff {candidate : List Char} {instant : Instant} :
    ofCandidate candidate = .ok (some instant) ↔
      ∃ (form : Form) (fields : Fields), form.Reads fields (pointFraction (undecorated candidate)) ∧
        fields.date.Exists ∧ fields.hour < 24 ∧ fields.minute < 60 ∧ fields.second < 60 ∧
        (∀ ahead hours minutes, fields.zone = .shifted ahead hours minutes →
          hours < 24 ∧ hours * 60 + minutes < 24 * 60) ∧
        (instant.micros : Int) =
          (fields.date.dayNumber * dayMicros + fields.clock.sinceMidnight : Nat) -
            fields.zone.shift := by
  constructor
  · intro denoted
    cases spelled : spelled? candidate with
    | none =>
      rw [ofCandidate_of_unspelled spelled] at denoted
      cases denoted
    | some fields =>
      rw [ofCandidate_of_spelled spelled] at denoted
      rcases spelled?_eq_some_iff.mp spelled with ⟨⟨date, clock, zone⟩, form, reads⟩
      exact ⟨form, fields, reads, date, clock.1, clock.2.1, clock.2.2.1, Zone.exists_iff.mp zone,
        Fields.micros_of_instant denoted⟩
  · rintro ⟨form, fields, reads, date, hour, minute, second, zone, micros⟩
    have fraction := Fields.micros_lt (Form.allDigits_of_reads reads)
    have exist : fields.Exist :=
      ⟨date, ⟨hour, minute, second, fraction⟩, Zone.exists_iff.mpr zone⟩
    have universal : fields.universalMicros = instant.micros := micros.symm
    rw [ofCandidate_of_spelled (spelled?_eq_some_iff.mpr ⟨exist, form, reads⟩), Fields.instant,
      if_pos exist, universal, Instant.ofMicros?_micros]

/-- Ahead of universal time by twenty-two hours and ninety-nine minutes. -/
def minutesEntry : List Char := "2024-01-15T10:30:00+22:99".toList

/-- The minutes of a zone that go beyond the hour are taken. -/
theorem ofCandidate_minutesEntry :
    ∃ instant : Instant, ofCandidate minutesEntry = .ok (some instant) ∧
      instant.date = ⟨2024, 1, 14⟩ ∧ instant.clock = ⟨10, 51, 0, 0⟩ ∧
      ∀ (form : Form) (fields : Fields),
        form.Reads fields (pointFraction (undecorated minutesEntry)) →
          fields.zone = .shifted true 22 99 := by
  have reads : Form.Reads (.listed .internet) ⟨⟨2024, 1, 15⟩, 10, 30, 0, [], .shifted true 22 99⟩
      (pointFraction (undecorated minutesEntry)) :=
    Form.reads_listed_iff.mpr (by decide)
  refine ⟨⟨738898 * dayMicros + 39060000000, by decide⟩, ?_, by decide, by decide, ?_⟩
  · refine ofCandidate_eq_some_iff.mpr ⟨_, _, reads, by decide, by decide, by decide, by decide, ?_,
      by decide⟩
    rintro _ _ _ ⟨⟩
    decide
  · intro form fields others
    rw [(Form.reads_unique others reads).2]

end Timestamp
end ContainerFleet
