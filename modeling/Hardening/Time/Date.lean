/-!
# Calendar dates

Dates of the Gregorian calendar, extended to all years before and after its introduction. A date
carries the proof that its month and day exist, so stepping to a neighbouring day is total.
-/
namespace Hardening.Time

/-- Every fourth year is a leap year, except the centuries that four hundred does not divide. -/
def isLeapYear (year : Int) : Bool :=
  year % 4 = 0 && (year % 100 ≠ 0 || year % 400 = 0)

/-- Length of a month; months past December have no days. -/
def daysInMonth (year : Int) (month : Nat) : Nat :=
  match month with
  | 1 | 3 | 5 | 7 | 8 | 10 | 12 => 31
  | 4 | 6 | 9 | 11 => 30
  | 2 => if isLeapYear year then 29 else 28
  | _ => 0

theorem daysInMonth_pos (year : Int) (month : Nat) (first : 1 ≤ month) (last : month ≤ 12) :
    1 ≤ daysInMonth year month := by
  have : month = 1 ∨ month = 2 ∨ month = 3 ∨ month = 4 ∨ month = 5 ∨ month = 6 ∨ month = 7 ∨
      month = 8 ∨ month = 9 ∨ month = 10 ∨ month = 11 ∨ month = 12 := by omega
  rcases this with h | h | h | h | h | h | h | h | h | h | h | h <;> subst h <;>
    simp only [daysInMonth] <;> first | omega | (split <;> omega)

theorem daysInMonth_le (year : Int) (month : Nat) : daysInMonth year month ≤ 31 := by
  unfold daysInMonth
  split <;> first | omega | (split <;> omega)

/-- A day of the calendar. -/
structure Date where
  year : Int
  month : Nat
  day : Nat
  month_pos : 1 ≤ month
  month_le : month ≤ 12
  day_pos : 1 ≤ day
  day_le : day ≤ daysInMonth year month
  deriving DecidableEq, Repr

namespace Date

/-- The date with the given parts, if there is one. -/
def of? (year : Int) (month day : Nat) : Option Date :=
  if h : 1 ≤ month ∧ month ≤ 12 ∧ 1 ≤ day ∧ day ≤ daysInMonth year month then
    some ⟨year, month, day, h.1, h.2.1, h.2.2.1, h.2.2.2⟩
  else
    none

theorem of?_self (date : Date) : of? date.year date.month date.day = some date := by
  simp [of?, date.month_pos, date.month_le, date.day_pos, date.day_le]

/-- The following day. -/
def next (date : Date) : Date :=
  if last : date.day < daysInMonth date.year date.month then
    ⟨date.year, date.month, date.day + 1, date.month_pos, date.month_le, by omega, last⟩
  else if december : date.month < 12 then
    ⟨date.year, date.month + 1, 1, by omega, by omega, by omega,
      daysInMonth_pos _ _ (by omega) (by omega)⟩
  else
    ⟨date.year + 1, 1, 1, by omega, by omega, by omega, daysInMonth_pos _ _ (by omega) (by omega)⟩

/-- The day before. -/
def previous (date : Date) : Date :=
  if first : 1 < date.day then
    ⟨date.year, date.month, date.day - 1, date.month_pos, date.month_le, by omega,
      by have := date.day_le; omega⟩
  else if january : 1 < date.month then
    have range := date.month_le
    ⟨date.year, date.month - 1, daysInMonth date.year (date.month - 1), by omega, by omega,
      daysInMonth_pos _ _ (by omega) (by omega), Nat.le_refl _⟩
  else
    ⟨date.year - 1, 12, 31, by omega, by omega, by omega, by simp [daysInMonth]⟩

/-- Earlier dates are smaller. -/
def compare (a b : Date) : Ordering :=
  (Ord.compare a.year b.year).then <|
    (Ord.compare a.month b.month).then <| Ord.compare a.day b.day

end Date
end Hardening.Time
