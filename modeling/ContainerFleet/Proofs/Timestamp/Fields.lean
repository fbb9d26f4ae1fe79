import ContainerFleet.Proofs.Calendar.Date
import ContainerFleet.Timestamp.Fields

/-!
# Fields that leave the calendar

Fields that exist denote a moment, except on the two days at the ends of the
calendar.  There a zone can carry the clock out of it: on the first day a zone
that is further ahead than the time of day, on the last one a zone that is
further behind than what is left of the day.
-/

namespace ContainerFleet

/-- A time of day that exists does not reach the next midnight. -/
theorem Clock.sinceMidnight_lt {clock : Clock} (real : clock.Exists) :
    clock.sinceMidnight < dayMicros := by
  rcases clock with ⟨hour, minute, second, micros⟩
  simp only [Exists, sinceMidnight, dayMicros] at real ⊢
  omega

namespace Timestamp

/-- A zone that exists shifts by less than a day. -/
theorem Zone.shift_bounds {zone : Zone} (real : zone.Exists) :
    -(dayMicros : Int) < zone.shift ∧ zone.shift < dayMicros := by
  cases zone with
  | universal =>
    rw [Zone.shift, dayMicros]
    omega
  | shifted ahead hours minutes =>
    have size : hours * 60 + minutes < 24 * 60 := real
    rw [Zone.shift, dayMicros]
    cases ahead
    · rw [if_neg Bool.false_ne_true]
      omega
    · rw [if_pos rfl]
      omega

namespace Fields

/-- The zone carries the clock before the first day or behind the last one. -/
def Overshoots (fields : Fields) : Prop :=
  (fields.date = Date.first ∧ (fields.clock.sinceMidnight : Int) < fields.zone.shift) ∨
    (fields.date = Date.last ∧
      (dayMicros : Int) ≤ fields.clock.sinceMidnight - fields.zone.shift)

instance (fields : Fields) : Decidable fields.Overshoots :=
  inferInstanceAs (Decidable ((_ ∧ _) ∨ (_ ∧ _)))

theorem overshoots_iff {fields : Fields} (exist : fields.Exist) :
    fields.Overshoots ↔
      ¬ (0 ≤ fields.universalMicros ∧
        fields.universalMicros.toNat < 3652059 * dayMicros) := by
  rcases exist with ⟨date, clock, zone⟩
  rcases Date.dayNumber_bounds date with ⟨most, isFirst, isLast⟩
  have time := Clock.sinceMidnight_lt clock
  rcases Zone.shift_bounds zone with ⟨behind, ahead⟩
  rw [Overshoots, ← isFirst, ← isLast, universalMicros]
  generalize fields.date.dayNumber = number at most
  generalize fields.clock.sinceMidnight = passed at time
  generalize fields.zone.shift = shift at behind ahead
  rw [dayMicros] at *
  omega

/-- Fields that exist denote a moment just if they do not leave the calendar. -/
theorem instant_of_exist {fields : Fields} (exist : fields.Exist) :
    (fields.Overshoots → fields.instant = .error .date) ∧
      (¬ fields.Overshoots → ∃ instant, fields.instant = .ok (some instant)) := by
  rw [overshoots_iff exist, instant, if_pos exist, Instant.ofMicros?]
  constructor
  · intro outside
    rw [dif_neg outside]
  · intro inside
    rw [Decidable.not_not] at inside
    rw [dif_pos inside]
    exact ⟨_, rfl⟩

end Fields
end Timestamp
end ContainerFleet
