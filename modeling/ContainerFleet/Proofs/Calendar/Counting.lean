import ContainerFleet.Proofs.Calendar.Date
import ContainerFleet.Calendar.Instant

/-!
# Dates that are counted

Every day of the years covered has a date that exists, and the number of that date is
the count of the day.  The same holds of the microseconds of a day and its clock, so a
moment is told by its date and its clock.
-/

namespace ContainerFleet
namespace Date

/-! ## Months of a year -/

/-- A day within some months lies in one of them, behind the months before it. -/
theorem walkMonths_eq (lengths : List Nat) (first offset : Nat)
    (within : offset < totalDays lengths) :
    ∃ before length after, lengths = before ++ length :: after ∧ totalDays before ≤ offset ∧
      offset < totalDays before + length ∧
      walkMonths lengths first offset = (first + before.length, offset - totalDays before + 1) := by
  induction lengths generalizing first offset with
  | nil => cases within
  | cons length later inductionHypothesis =>
    rw [walkMonths]
    by_cases inside : offset < length
    · rw [if_pos inside]
      exact ⟨[], length, later, rfl, Nat.zero_le _, by simpa using inside, rfl⟩
    · rw [if_neg inside]
      rw [totalDays_cons] at within
      rcases inductionHypothesis (first + 1) (offset - length) (by omega) with
        ⟨before, found, after, rfl, least, most, walked⟩
      refine ⟨length :: before, found, after, rfl, ?_, ?_, ?_⟩
      · rw [totalDays_cons]
        omega
      · rw [totalDays_cons]
        omega
      · rw [walked, totalDays_cons, List.length_cons, Prod.mk.injEq]
        omega

theorem totalDays_monthLengths (year : Nat) :
    totalDays (monthLengths year) = if isLeap year then 366 else 365 := by
  rw [monthLengths]
  cases isLeap year <;> rfl

/-- The date of a day within a year exists there. -/
theorem date_of_offset {year offset : Nat} (atLeast : 1 ≤ year) (atMost : year ≤ 9999)
    (within : offset < totalDays (monthLengths year)) {month day : Nat}
    (walked : walkMonths (monthLengths year) 1 offset = (month, day)) :
    Exists ⟨year, month, day⟩ ∧
      totalDays ((monthLengths year).take (month - 1)) + (day - 1) = offset := by
  rcases walkMonths_eq _ 1 offset within with ⟨before, length, after, split, least, most, found⟩
  rcases Prod.mk.inj (found.symm.trans walked) with ⟨rfl, rfl⟩
  have numbered : 1 + before.length - 1 = before.length := Nat.add_sub_cancel_left 1 _
  have found_length : monthLength year (1 + before.length) = length := by
    rw [monthLength, if_neg (by omega), numbered, split, List.getD_eq_getElem?_getD,
      List.getElem?_append_right (Nat.le_refl _), Nat.sub_self]
    rfl
  refine ⟨⟨atLeast, atMost, Nat.le_add_left 1 _, ?_⟩, ?_⟩
  · dsimp only
    rw [found_length]
    omega
  · rw [numbered, split, List.take_left]
    omega

/-! ## Years -/

/-- The days before a year, by the cycles that have passed. -/
theorem daysBeforeYear_of_cycles {cycles centuries fours years : Nat} (century : centuries ≤ 3)
    (four : fours ≤ 24) (year : years ≤ 3) :
    daysBeforeYear (400 * cycles + 100 * centuries + 4 * fours + years + 1) =
      146097 * cycles + 36524 * centuries + 1461 * fours + 365 * years := by
  rw [daysBeforeYear]
  omega

/-- The last year of a cycle of four is a leap year, unless it ends a century that is not
the last of its cycle. -/
theorem isLeap_of_cycles {cycles centuries fours : Nat}
    (four : fours < 24 ∨ (fours = 24 ∧ centuries = 3)) :
    isLeap (400 * cycles + 100 * centuries + 4 * fours + 3 + 1) = true := by
  rw [isLeap, Bool.and_eq_true, Bool.or_eq_true, decide_eq_true_eq, decide_eq_true_eq,
    decide_eq_true_eq]
  omega

/-- The cycles of years that are taken off the count leave a day within the year. -/
theorem year_of_count {days : Nat} (small : days < 3652059) :
    ∃ year offset, 1 ≤ year ∧ year ≤ 9999 ∧ offset < totalDays (monthLengths year) ∧
      daysBeforeYear year + offset = days ∧
      ∀ month day, walkMonths (monthLengths year) 1 offset = (month, day) →
        ofDayNumber days = ⟨year, month, day⟩ := by
  obtain ⟨cycles, cycles_eq⟩ : ∃ cycles, days / 146097 = cycles := ⟨_, rfl⟩
  obtain ⟨inCycle, inCycle_eq⟩ : ∃ inCycle, days % 146097 = inCycle := ⟨_, rfl⟩
  obtain ⟨centuries, centuries_eq⟩ : ∃ centuries, min 3 (inCycle / 36524) = centuries := ⟨_, rfl⟩
  obtain ⟨inCentury, inCentury_eq⟩ : ∃ inCentury, inCycle - 36524 * centuries = inCentury := ⟨_, rfl⟩
  obtain ⟨fours, fours_eq⟩ : ∃ fours, inCentury / 1461 = fours := ⟨_, rfl⟩
  obtain ⟨inFour, inFour_eq⟩ : ∃ inFour, inCentury % 1461 = inFour := ⟨_, rfl⟩
  obtain ⟨years, years_eq⟩ : ∃ years, min 3 (inFour / 365) = years := ⟨_, rfl⟩
  have century : centuries ≤ 3 ∧ 36524 * centuries ≤ inCycle ∧ inCentury ≤ 36524 ∧
      (inCentury = 36524 → centuries = 3) := by omega
  have four : fours ≤ 24 := by omega
  have year : years ≤ 3 ∧ 365 * years ≤ inFour ∧ inFour - 365 * years ≤ 365 := by omega
  refine ⟨400 * cycles + 100 * centuries + 4 * fours + years + 1, inFour - 365 * years,
    Nat.le_add_left 1 _, by omega, ?_, ?_, fun month day walked => ?_⟩
  · rw [totalDays_monthLengths]
    by_cases overlong : inFour - 365 * years = 365
    · obtain rfl : years = 3 := by omega
      rw [isLeap_of_cycles (by omega)]
      exact Nat.lt_succ_of_le year.2.2
    · split <;> omega
  · rw [daysBeforeYear_of_cycles century.1 four year.1]
    omega
  · rw [ofDayNumber, inCycle_eq, cycles_eq]
    dsimp only
    rw [centuries_eq, inCentury_eq, fours_eq, inFour_eq, years_eq, walked]

theorem exists_ofDayNumber {days : Nat} (small : days < 3652059) :
    (ofDayNumber days).Exists ∧ (ofDayNumber days).dayNumber = days := by
  rcases year_of_count small with ⟨year, offset, atLeast, atMost, within, counted, date⟩
  rcases walked : walkMonths (monthLengths year) 1 offset with ⟨month, day⟩
  rcases date_of_offset atLeast atMost within walked with ⟨real, passed⟩
  rw [date month day walked]
  refine ⟨real, ?_⟩
  rw [dayNumber, Nat.add_assoc, passed, counted]

end Date

/-! ## Clocks and moments -/

theorem Clock.exists_ofSinceMidnight {micros : Nat} (small : micros < dayMicros) :
    (ofSinceMidnight micros).Exists ∧ (ofSinceMidnight micros).sinceMidnight = micros := by
  rw [dayMicros] at small
  simp only [Exists, sinceMidnight, ofSinceMidnight]
  omega

namespace Instant

theorem exists_date (instant : Instant) :
    instant.date.Exists ∧ instant.date.dayNumber = instant.micros / dayMicros := by
  have range := instant.inRange
  refine Date.exists_ofDayNumber (Nat.div_lt_of_lt_mul ?_)
  rwa [Nat.mul_comm]

theorem exists_clock (instant : Instant) :
    instant.clock.Exists ∧ instant.clock.sinceMidnight = instant.micros % dayMicros :=
  Clock.exists_ofSinceMidnight (Nat.mod_lt _ (by decide))

/-- A moment lies as long after the first one as its date and its clock say. -/
theorem micros_eq (instant : Instant) :
    instant.date.dayNumber * dayMicros + instant.clock.sinceMidnight = instant.micros := by
  rw [instant.exists_date.2, instant.exists_clock.2, Nat.mul_comm, Nat.div_add_mod]

end Instant
end ContainerFleet
