import ContainerFleet.Calendar.Date
import ContainerFleet.Text.Digits

/-!
# Instants

A moment of universal time to the microsecond, within the years 1 to 9999.
It is kept as the number of microseconds since the first moment of year 1;
the date and the clock are views of that number.
-/

namespace ContainerFleet

/-- A time of day to the microsecond. -/
structure Clock where
  hour : Nat
  minute : Nat
  second : Nat
  micros : Nat
  deriving DecidableEq, Repr

namespace Clock

/-- A time of day that exists; there are no leap seconds. -/
def Exists (clock : Clock) : Prop :=
  clock.hour < 24 ∧ clock.minute < 60 ∧ clock.second < 60 ∧ clock.micros < 1000000

instance (clock : Clock) : Decidable clock.Exists :=
  inferInstanceAs (Decidable (_ ∧ _ ∧ _ ∧ _))

/-- Microseconds since midnight. -/
def sinceMidnight (clock : Clock) : Nat :=
  ((clock.hour * 60 + clock.minute) * 60 + clock.second) * 1000000 + clock.micros

/-- The time of day that lies some microseconds after midnight. -/
def ofSinceMidnight (micros : Nat) : Clock :=
  ⟨micros / 3600000000, micros / 60000000 % 60, micros / 1000000 % 60, micros % 1000000⟩

theorem ofSinceMidnight_sinceMidnight (clock : Clock) (real : clock.Exists) :
    ofSinceMidnight clock.sinceMidnight = clock := by
  obtain ⟨hour, minute, second, micros⟩ := clock
  simp only [Exists, sinceMidnight, ofSinceMidnight, Clock.mk.injEq] at real ⊢
  omega

end Clock

/-- Microseconds in a day. -/
def dayMicros : Nat := 86400000000

/-- A moment of universal time. -/
structure Instant where
  micros : Nat
  inRange : micros < 3652059 * dayMicros
  deriving DecidableEq, Repr

namespace Instant

/-- The moment that lies a number of microseconds after the first moment of
year 1, if it lies in the years covered. -/
def ofMicros? (micros : Int) : Option Instant :=
  if bounds : 0 ≤ micros ∧ micros.toNat < 3652059 * dayMicros then
    some ⟨micros.toNat, bounds.2⟩
  else none

/-- The date on which the moment falls. -/
def date (instant : Instant) : Date :=
  Date.ofDayNumber (instant.micros / dayMicros)

/-- The time of day at which the moment falls. -/
def clock (instant : Instant) : Clock :=
  Clock.ofSinceMidnight (instant.micros % dayMicros)

/-- Microseconds between the first moment of year 1 and the start of 1970. -/
def epochMicros : Nat := 719162 * dayMicros

/-- Microseconds since the start of 1970, negative before it. -/
def sinceEpoch (instant : Instant) : Int :=
  (instant.micros : Int) - epochMicros

/-- The six digits after the seconds, absent when they would all be zero. -/
def fractionText (micros : Nat) : List Char :=
  if micros = 0 then [] else '.' :: Digits.padded 6 micros

/-- The date and the clock in the interchange form, with `zone` written at
the end: `2024-01-15T10:30:00` or `2024-01-15T10:30:00.250000`. -/
def isoText (instant : Instant) (zone : String) : String :=
  let date := instant.date
  let clock := instant.clock
  String.ofList (Digits.padded 4 date.year ++ '-' :: Digits.padded 2 date.month ++ '-' ::
    Digits.padded 2 date.day ++ 'T' :: Digits.padded 2 clock.hour ++ ':' ::
    Digits.padded 2 clock.minute ++ ':' :: Digits.padded 2 clock.second ++
    fractionText clock.micros) ++ zone

/-- The date and the clock for a reader, to the second, the year without
leading zeros: `2024-01-15 10:30:00`. -/
def plainText (instant : Instant) : String :=
  let date := instant.date
  let clock := instant.clock
  String.ofList (Digits.ofNat date.year ++ '-' :: Digits.padded 2 date.month ++ '-' ::
    Digits.padded 2 date.day ++ ' ' :: Digits.padded 2 clock.hour ++ ':' ::
    Digits.padded 2 clock.minute ++ ':' :: Digits.padded 2 clock.second)

theorem ofMicros?_micros (instant : Instant) : ofMicros? instant.micros = some instant := by
  have bounds : (0 : Int) ≤ instant.micros ∧
      (instant.micros : Int).toNat < 3652059 * dayMicros :=
    ⟨Int.natCast_nonneg _, by simpa using instant.inRange⟩
  rw [ofMicros?, dif_pos bounds]
  rfl

end Instant
end ContainerFleet
