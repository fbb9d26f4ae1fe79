import ContainerFleet.Proofs.Calendar.Counting
import ContainerFleet.Proofs.Timestamp.Heeded

/-!
# Moments in the interchange form

A moment written in the interchange form with the letter of universal time is a front
that is heeded, so it is read as the moment that it was written from.
-/

namespace ContainerFleet
namespace Instant

open Digits
open Timestamp (Capture Fields)

/-- The parts of the interchange form. -/
def capture (instant : Instant) : Capture where
  mark₁ := '-'
  mark₂ := '-'
  between := 'T'
  point := '.'
  date := instant.date
  hour := instant.clock.hour
  minute := instant.clock.minute
  second := instant.clock.second
  fraction := if instant.clock.micros = 0 then [] else padded 6 instant.clock.micros
  zone := .letter

variable (instant : Instant)

theorem isRun_micros : IsRun 6 (padded 6 instant.clock.micros) :=
  isRun_padded (by decide) instant.exists_clock.1.2.2.2

theorem isoText_eq : (instant.isoText "Z").toList = instant.capture.text := by
  have fraction : instant.capture.fractionText = fractionText instant.clock.micros := by
    rw [Capture.fractionText, capture, fractionText]
    by_cases whole : instant.clock.micros = 0
    · rw [if_pos whole, if_pos whole]
      rfl
    · rcases exists_cons_of_isRun instant.isRun_micros with ⟨digit, more, shape, -⟩
      rw [if_neg whole, if_neg whole, shape]
      rfl
  rw [isoText, String.toList_append, String.toList_ofList, Capture.text, fraction]
  simp [Capture.localText, capture, Timestamp.ZoneText.write]

theorem isoText_ends : ∃ front, (instant.isoText "Z").toList = front ++ ['Z'] :=
  ⟨_, String.toList_append⟩

theorem dated_capture : instant.capture.Dated where
  marks := ⟨.listed .internet, rfl⟩
  date := instant.exists_date.1
  hour := instant.exists_clock.1.1
  minute := instant.exists_clock.1.2.1
  second := instant.exists_clock.1.2.2.1

theorem proper_capture : instant.capture.Proper := by
  have real := instant.exists_date.1
  have month := (Date.month_of_exists real).2
  have day := real.2.2.2.trans (Date.monthLength_le _ _)
  rcases instant.exists_clock.1 with ⟨hour, minute, second, -⟩
  have fraction : AllDigits instant.capture.fraction := by
    rw [capture]
    dsimp only
    split
    · exact fun _ wrong => nomatch wrong
    · exact instant.isRun_micros.2
  exact ⟨rfl, rfl, .inl rfl, .inl rfl, Nat.lt_succ_of_le real.2.1,
    Nat.lt_of_le_of_lt month (by decide), Nat.lt_of_le_of_lt day (by decide),
    hour.trans (by decide), minute.trans (by decide), second.trans (by decide), fraction, trivial⟩

theorem micros_capture : instant.capture.fields.micros = instant.clock.micros := by
  rw [Fields.micros, Capture.fields, capture]
  dsimp only
  by_cases whole : instant.clock.micros = 0
  · rw [if_pos whole, whole]
    exact value_zeros 6
  · have run := instant.isRun_micros
    rw [if_neg whole, List.take_of_length_le (Nat.le_of_eq run.1), run.1]
    rw [Nat.sub_self, List.replicate_zero, List.append_nil, value_padded]

theorem universalMicros_capture : instant.capture.fields.universalMicros = instant.micros := by
  have clock : instant.capture.fields.clock = instant.clock := by
    rw [Fields.clock, micros_capture]
    rfl
  rw [Fields.universalMicros, clock]
  exact (Int.sub_zero _).trans (congrArg Nat.cast instant.micros_eq)

/-- A written moment is read as that moment. -/
theorem ofCandidate_isoText :
    Timestamp.ofCandidate (instant.isoText "Z").toList = .ok (some instant) := by
  have universal : Timestamp.Zone.universal.Exists := by decide
  have heeded : instant.capture.Heeded := .inr ⟨rfl, .inr rfl, universal⟩
  have exist : instant.capture.fields.Exist :=
    Capture.exist_of_dated instant.dated_capture instant.proper_capture.fraction universal
  have spelled := Capture.spelled?_of_heeded instant.proper_capture heeded instant.dated_capture
  rw [isoText_eq, Timestamp.ofCandidate_of_spelled spelled, Fields.instant, if_pos exist,
    universalMicros_capture, ofMicros?_micros]

end Instant
end ContainerFleet
