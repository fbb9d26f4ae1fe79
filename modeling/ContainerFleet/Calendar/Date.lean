/-!
# Calendar dates

The Gregorian calendar of the years 1 to 9999, applied backwards before its
introduction.  A date is counted by the days since 1 January of year 1, and
the count is turned back into a date by whole cycles of 400, 100, 4 and 1
years.
-/

namespace ContainerFleet

/-- A year, a month from 1 and a day from 1, in calendar order. -/
structure Date where
  year : Nat
  month : Nat
  day : Nat
  deriving DecidableEq, Repr

namespace Date

/-- Every fourth year is a leap year, except the centuries not divisible by 400. -/
def isLeap (year : Nat) : Bool :=
  year % 4 = 0 && (year % 100 ≠ 0 || year % 400 = 0)

/-- The lengths of the twelve months of a year. -/
def monthLengths (year : Nat) : List Nat :=
  [31, if isLeap year then 29 else 28, 31, 30, 31, 30, 31, 31, 30, 31, 30, 31]

/-- The days of some months together. -/
def totalDays (lengths : List Nat) : Nat :=
  lengths.foldr (· + ·) 0

@[simp]
theorem totalDays_nil : totalDays [] = 0 := rfl

@[simp]
theorem totalDays_cons (length : Nat) (later : List Nat) :
    totalDays (length :: later) = length + totalDays later := rfl

/-- The length of one month; zero for a month that does not exist. -/
def monthLength (year month : Nat) : Nat :=
  if month = 0 then 0 else (monthLengths year).getD (month - 1) 0

/-- A date that exists, in a year that the calendar covers. -/
def Exists (date : Date) : Prop :=
  1 ≤ date.year ∧ date.year ≤ 9999 ∧ 1 ≤ date.day ∧ date.day ≤ monthLength date.year date.month

instance (date : Date) : Decidable date.Exists :=
  inferInstanceAs (Decidable (_ ∧ _ ∧ _ ∧ _))

/-- Days from 1 January of year 1 to 1 January of `year`. -/
def daysBeforeYear (year : Nat) : Nat :=
  let past := year - 1
  365 * past + past / 4 - past / 100 + past / 400

/-- Days from 1 January of year 1 to the date. -/
def dayNumber (date : Date) : Nat :=
  daysBeforeYear date.year + totalDays ((monthLengths date.year).take (date.month - 1)) +
    (date.day - 1)

/-- The month and the day that lie `offset` days after the first day of the
month numbered `month`, whose length heads the list. -/
def walkMonths : List Nat → (month offset : Nat) → Nat × Nat
  | [], month, offset => (month, offset + 1)
  | length :: later, month, offset =>
    if offset < length then (month, offset + 1) else walkMonths later (month + 1) (offset - length)

/-- The date that lies a number of days after 1 January of year 1.  The last
day of a cycle of 400 or of 4 years would start one year too many, so the
count of completed shorter cycles is held at three. -/
def ofDayNumber (days : Nat) : Date :=
  let inCycle := days % 146097
  let centuries := min 3 (inCycle / 36524)
  let inCentury := inCycle - 36524 * centuries
  let inFour := inCentury % 1461
  let years := min 3 (inFour / 365)
  let year := 400 * (days / 146097) + 100 * centuries + 4 * (inCentury / 1461) + years + 1
  let (month, day) := walkMonths (monthLengths year) 1 (inFour - 365 * years)
  ⟨year, month, day⟩

example : dayNumber ⟨1970, 1, 1⟩ = 719162 := by decide
example : ofDayNumber 719162 = ⟨1970, 1, 1⟩ := by decide
example : ofDayNumber (dayNumber ⟨2000, 12, 31⟩) = ⟨2000, 12, 31⟩ := by decide
example : ¬ Exists ⟨2023, 2, 29⟩ := by decide

end Date
end ContainerFleet
