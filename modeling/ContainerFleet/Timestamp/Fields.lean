import ContainerFleet.Calendar.Instant
import ContainerFleet.RangeError

/-!
# Timestamp fields

What a written timestamp says, before it is known whether such a moment
exists: a date, a clock, the digits of a fraction and a zone.  `Fields.instant`
is the moment they denote.
-/

namespace ContainerFleet
namespace Timestamp

/-- How far the written clock is ahead of universal time. -/
inductive Zone where
  /-- Universal time, also read where no zone or only an abbreviation is written. -/
  | universal
  /-- A signed number of hours and minutes; `ahead` is the sign plus. -/
  | shifted (ahead : Bool) (hours minutes : Nat)
  deriving DecidableEq, Repr

namespace Zone

/-- Minutes between the written clock and universal time, without the sign. -/
def size : Zone → Nat
  | .universal => 0
  | .shifted _ hours minutes => hours * 60 + minutes

/-- A shift of a day or more is no zone.  The minutes alone are not bounded. -/
def Exists (zone : Zone) : Prop := zone.size < 24 * 60

instance (zone : Zone) : Decidable zone.Exists :=
  inferInstanceAs (Decidable (_ < _))

/-- Microseconds to subtract from the written clock. -/
def shift : Zone → Int
  | .universal => 0
  | .shifted ahead hours minutes =>
    let size : Int := ((hours * 60 + minutes) * 60000000 : Nat)
    if ahead then size else -size

end Zone

/-- The content of a written timestamp. -/
structure Fields where
  date : Date
  hour : Nat
  minute : Nat
  second : Nat
  fraction : List Char
  zone : Zone
  deriving DecidableEq, Repr

namespace Fields

/-- Fields before anything has been read. -/
def blank : Fields := ⟨⟨0, 0, 0⟩, 0, 0, 0, [], .universal⟩

/-- The fraction in microseconds; digits after the sixth are dropped. -/
def micros (fields : Fields) : Nat :=
  let kept := fields.fraction.take 6
  Digits.value (kept ++ List.replicate (6 - kept.length) '0')

/-- The time of day, fraction included. -/
def clock (fields : Fields) : Clock :=
  ⟨fields.hour, fields.minute, fields.second, fields.micros⟩

/-- The date, the clock and the zone each exist. -/
def Exist (fields : Fields) : Prop :=
  fields.date.Exists ∧ fields.clock.Exists ∧ fields.zone.Exists

instance (fields : Fields) : Decidable fields.Exist :=
  inferInstanceAs (Decidable (_ ∧ _ ∧ _))

/-- Microseconds from the first moment of year 1 to the moment denoted. -/
def universalMicros (fields : Fields) : Int :=
  ((fields.date.dayNumber * dayMicros + fields.clock.sinceMidnight : Nat) : Int) -
    fields.zone.shift

/-- The moment that the fields denote, none where a field does not exist.  A
zone can carry an existing date out of the years covered; that is an error
and not the absence of a timestamp. -/
def instant (fields : Fields) : Except RangeError (Option Instant) :=
  if fields.Exist then
    match Instant.ofMicros? fields.universalMicros with
    | some instant => .ok (some instant)
    | none => .error .date
  else .ok none

end Fields
end Timestamp
end ContainerFleet
