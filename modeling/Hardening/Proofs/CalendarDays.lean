import Hardening.Time.Date

/-!
# Days counted through the calendar

Every date has a number: the days of the years before it, of the months before it in its year, and its
day. The next date has the next number, at the ends of months and years as well, and no two dates have
the same one, so going from date to date is counting.
-/
namespace Hardening.Time

/-- The days from the beginning of year 1 to the beginning of a year, less than none before it. -/
def daysBeforeYear (year : Int) : Int :=
  365 * (year - 1) + (year - 1) / 4 - (year - 1) / 100 + (year - 1) / 400

/-- The days of a year in front of a month. -/
def daysBeforeMonth (year : Int) : Nat → Nat
  | 0 => 0
  | month + 1 => daysBeforeMonth year month + daysInMonth year month

/-- A year has 365 days, or 366 if it is a leap year. -/
theorem daysBeforeMonth_thirteen (year : Int) :
    daysBeforeMonth year 13 = if isLeapYear year then 366 else 365 := by
  simp only [daysBeforeMonth, daysInMonth]
  split <;> rfl

/-- The rule for leap years is what the quotients count. -/
theorem daysBeforeYear_succ (year : Int) :
    daysBeforeYear (year + 1) = daysBeforeYear year + daysBeforeMonth year 13 := by
  rw [daysBeforeMonth_thirteen]
  unfold daysBeforeYear isLeapYear
  split
  next leap =>
    simp only [Bool.and_eq_true, Bool.or_eq_true, decide_eq_true_eq] at leap
    omega
  next common =>
    simp only [Bool.and_eq_true, Bool.or_eq_true, decide_eq_true_eq] at common
    omega

theorem daysBeforeYear_mono {year later : Int} (less : year ≤ later) :
    daysBeforeYear year ≤ daysBeforeYear later := by
  unfold daysBeforeYear
  omega

theorem daysBeforeMonth_mono (year : Int) {month later : Nat} (less : month ≤ later) :
    daysBeforeMonth year month ≤ daysBeforeMonth year later := by
  induction less with
  | refl => exact Nat.le_refl _
  | step _ ih => exact Nat.le_trans ih (Nat.le_add_right _ _)

namespace Date

/-- The number of a day, counted from the first day of year 1. -/
def dayNumber (date : Date) : Int :=
  daysBeforeYear date.year + daysBeforeMonth date.year date.month + date.day

theorem dayNumber_next (date : Date) : date.next.dayNumber = date.dayNumber + 1 := by
  have last := date.day_le
  unfold next
  split
  next =>
    simp only [dayNumber]
    omega
  next monthEnd =>
    split
    next =>
      simp only [dayNumber, daysBeforeMonth]
      omega
    next yearEnd =>
      -- December has 31 days in every year, so all days of the year are counted.
      have december : date.month = 12 := Nat.le_antisymm date.month_le (Nat.le_of_not_lt yearEnd)
      rw [december] at last monthEnd
      simp only [dayNumber, daysBeforeYear_succ, december, daysBeforeMonth, daysInMonth] at *
      omega

theorem dayNumber_previous (date : Date) : date.previous.dayNumber = date.dayNumber - 1 := by
  have first := date.day_pos
  unfold previous
  split
  next =>
    simp only [dayNumber]
    omega
  next monthStart =>
    split
    next later =>
      obtain ⟨before, same⟩ := Nat.exists_eq_add_of_lt later
      simp only [dayNumber, same, Nat.add_sub_cancel, daysBeforeMonth]
      omega
    next yearStart =>
      have january : date.month = 1 := Nat.le_antisymm (Nat.le_of_not_lt yearStart) date.month_pos
      have year := daysBeforeYear_succ (date.year - 1)
      rw [Int.sub_add_cancel] at year
      simp only [dayNumber, year, january, daysBeforeMonth, daysInMonth] at *
      omega

/-- A date lies behind what is in front of its month, and not behind its month or its year. -/
theorem dayNumber_bounds (date : Date) :
    daysBeforeYear date.year + daysBeforeMonth date.year date.month < date.dayNumber ∧
    date.dayNumber ≤ daysBeforeYear date.year + daysBeforeMonth date.year (date.month + 1) ∧
    date.dayNumber ≤ daysBeforeYear (date.year + 1) := by
  have first := date.day_pos
  have last := date.day_le
  have month := daysBeforeMonth_mono date.year (Nat.succ_le_succ date.month_le)
  rw [daysBeforeYear_succ]
  simp only [dayNumber, daysBeforeMonth] at *
  omega

variable {a b : Date}

theorem dayNumber_lt_of_year (less : a.year < b.year) : a.dayNumber < b.dayNumber := by
  have years := daysBeforeYear_mono (show a.year + 1 ≤ b.year from less)
  have front := a.dayNumber_bounds
  have back := b.dayNumber_bounds
  omega

theorem dayNumber_lt_of_month (same : a.year = b.year) (less : a.month < b.month) :
    a.dayNumber < b.dayNumber := by
  have months := daysBeforeMonth_mono b.year (show a.month + 1 ≤ b.month from less)
  have front := a.dayNumber_bounds
  have back := b.dayNumber_bounds
  rw [same] at front
  omega

/-- No two dates have the same number. -/
theorem dayNumber_inj (same : a.dayNumber = b.dayNumber) : a = b := by
  -- A smaller year or month has smaller numbers whatever stands behind it, so they agree in turn.
  have year : a.year = b.year := by
    rcases Int.lt_trichotomy a.year b.year with less | equal | more
    · exact absurd same (Int.ne_of_lt (dayNumber_lt_of_year less))
    · exact equal
    · exact absurd same.symm (Int.ne_of_lt (dayNumber_lt_of_year more))
  have month : a.month = b.month := by
    rcases Nat.lt_trichotomy a.month b.month with less | equal | more
    · exact absurd same (Int.ne_of_lt (dayNumber_lt_of_month year less))
    · exact equal
    · exact absurd same.symm (Int.ne_of_lt (dayNumber_lt_of_month year.symm more))
  have day : a.day = b.day := by
    simp only [dayNumber, year, month] at same
    omega
  cases a
  cases b
  simp_all

end Date
end Hardening.Time
