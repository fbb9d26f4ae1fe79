import ContainerFleet.Calendar.Date

/-!
# The first and the last day

The day numbers of the dates that exist fill the range from zero to one below
3652059.  Only the first date has the first number and only the last date the
last one, so a shift of less than a day leaves the calendar from these two alone.
-/

namespace ContainerFleet
namespace Date

/-- The first date of the calendar. -/
def first : Date := ⟨1, 1, 1⟩

/-- The last date of the calendar. -/
def last : Date := ⟨9999, 12, 31⟩

theorem month_of_exists {date : Date} (real : date.Exists) :
    1 ≤ date.month ∧ date.month ≤ 12 := by
  rcases real with ⟨-, -, positive, within⟩
  have length : 0 < monthLength date.year date.month := Nat.lt_of_lt_of_le positive within
  rw [monthLength] at length
  split at length
  · exact absurd length (Nat.lt_irrefl 0)
  · rename_i numbered
    refine ⟨Nat.pos_of_ne_zero numbered, Nat.le_of_not_lt fun beyond => ?_⟩
    have none_there : (monthLengths date.year).length ≤ date.month - 1 :=
      Nat.le_sub_one_of_lt beyond
    rw [List.getD_eq_getElem?_getD, List.getElem?_eq_none none_there] at length
    exact absurd length (Nat.lt_irrefl 0)

theorem monthLength_le (year month : Nat) : monthLength year month ≤ 31 := by
  have lengths : ∀ length ∈ monthLengths year, length ≤ 31 := by
    rw [monthLengths]
    cases isLeap year <;> decide
  rw [monthLength]
  split
  · exact Nat.zero_le 31
  · rw [List.getD_eq_getElem?_getD]
    cases found : (monthLengths year)[month - 1]? with
    | none => exact Nat.zero_le 31
    | some length => exact lengths length (List.mem_of_getElem? found)

/-- Where a date stands within its year: after the months before it, and not
behind the end of the year, which only the last of December reaches. -/
theorem dayOfYear_bounds {date : Date} (real : date.Exists) :
    let passed := totalDays ((monthLengths date.year).take (date.month - 1)) + (date.day - 1)
    (passed = 0 → date.month = 1 ∧ date.day = 1) ∧
      (isLeap date.year = false → passed ≤ 364) ∧ passed ≤ 365 ∧
      (isLeap date.year = false → passed = 364 → date.month = 12 ∧ date.day = 31) := by
  rcases month_of_exists real with ⟨low, high⟩
  rcases date with ⟨year, month, day⟩
  rcases real with ⟨-, -, positive, within⟩
  have cases_of_month : month = 1 ∨ month = 2 ∨ month = 3 ∨ month = 4 ∨ month = 5 ∨ month = 6 ∨
      month = 7 ∨ month = 8 ∨ month = 9 ∨ month = 10 ∨ month = 11 ∨ month = 12 := by
    dsimp only at low high
    omega
  rcases cases_of_month with rfl | rfl | rfl | rfl | rfl | rfl | rfl | rfl | rfl | rfl | rfl | rfl
  all_goals
    simp only [monthLength, monthLengths] at positive within ⊢
    cases leap : isLeap year <;> simp [leap] at positive within ⊢ <;> omega

/-- The number of a date that exists, with the dates at the two ends of the
calendar told by their numbers. -/
theorem dayNumber_bounds {date : Date} (real : date.Exists) :
    date.dayNumber ≤ 3652058 ∧ (date.dayNumber = 0 ↔ date = first) ∧
      (date.dayNumber = 3652058 ↔ date = last) := by
  rcases dayOfYear_bounds real with ⟨starts, common, most, ends⟩
  rcases date with ⟨year, month, day⟩
  rcases real with ⟨atLeast, atMost, positive, -⟩
  have number : dayNumber ⟨year, month, day⟩ = daysBeforeYear year +
      (totalDays ((monthLengths year).take (month - 1)) + (day - 1)) := Nat.add_assoc ..
  dsimp only at starts common most ends atLeast atMost positive
  generalize totalDays ((monthLengths year).take (month - 1)) + (day - 1) = passed at *
  have years : daysBeforeYear year =
      365 * (year - 1) + (year - 1) / 4 - (year - 1) / 100 + (year - 1) / 400 := rfl
  have not_leap : isLeap 9999 = false := by decide
  by_cases final : year = 9999
  · subst final
    have bound := common not_leap
    have unique := ends not_leap
    rw [number]
    refine ⟨by omega, ⟨by omega, ?_⟩, ⟨fun reached => ?_, ?_⟩⟩
    · intro same
      injection same with wrong
      contradiction
    · rcases unique (by omega) with ⟨rfl, rfl⟩
      rfl
    · intro same
      rw [← number, same]
      rfl
  · rw [number]
    refine ⟨by omega, ⟨fun none_passed => ?_, ?_⟩, ⟨by omega, ?_⟩⟩
    · rcases starts (by omega) with ⟨rfl, rfl⟩
      obtain rfl : year = 1 := by omega
      rfl
    · intro same
      rw [← number, same]
      rfl
    · intro same
      injection same with wrong
      exact absurd wrong final

end Date
end ContainerFleet
