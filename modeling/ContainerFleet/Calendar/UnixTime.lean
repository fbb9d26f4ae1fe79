import ContainerFleet.Calendar.Instant
import ContainerFleet.Number.Binary64

/-!
# Seconds since 1970

Moments are reported in whole seconds.  The exact count of microseconds is
first rounded to the nearest binary fraction of a second and then cut off
toward zero, so a moment within the last microseconds of a second may count
for the next one where such fractions are coarse.
-/

namespace ContainerFleet

/-- A time in seconds without its places; none for a time that is not finite. -/
def wholeSeconds? (time : Float) : Option Int :=
  Binary64.truncate? time

/-- Whole seconds since the start of 1970. -/
def Instant.unixSeconds (instant : Instant) : Int :=
  match Binary64.divide instant.sinceEpoch 1000000 with
  | .ok seconds => (wholeSeconds? seconds).getD 0
  | .error _ => 0

/-- The year in which a day lies, counted from 1 January of year 1; the
calendar is continued in both directions. -/
def yearOfDay (day : Int) : Int :=
  (Date.ofDayNumber (day.fmod 146097).toNat).year + 400 * day.fdiv 146097

/-- The year in which a second since 1970 lies.  Seconds are counted in 64
bits and years, from 1900 on, in 32; the number of the year itself has 32 bits
as well. -/
def yearOfSecond (seconds : Int) : Except RangeError Int := do
  if ¬(-0x8000000000000000 ≤ seconds ∧ seconds < 0x8000000000000000) then throw .second
  let year := yearOfDay ((seconds + 62135596800).fdiv 86400)
  if ¬(-0x80000000 ≤ year - 1900 ∧ year - 1900 < 0x80000000) then throw .calendar
  return year.bmod 0x100000000

/-- The time of day at a second since 1970, in the years that the calendar
covers.  The first day of year 1 is left out, because the day before it is
looked at as well. -/
def clockAt (seconds : Int) : Except RangeError Clock :=
  let elapsed := seconds + 62135596800
  let day := elapsed.fdiv 86400
  if 1 ≤ day ∧ day < 3652059 then
    .ok (Clock.ofSinceMidnight ((elapsed.fmod 86400).toNat * 1000000))
  else if day = 0 then .error (.year 0)
  else (yearOfSecond seconds).bind fun year => .error (.year year)

end ContainerFleet
