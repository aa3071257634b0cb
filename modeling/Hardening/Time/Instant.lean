import Hardening.Time.Date

/-!
# Instants in coordinated universal time

An instant is a date and a time of day to the nanosecond. Second 60 stands for a leap second at the
end of a minute, so instants are ordered by their parts from the largest to the smallest.
-/
namespace Hardening.Time

/-- An instant in coordinated universal time. -/
structure Instant where
  date : Date
  hour : Nat
  minute : Nat
  second : Nat
  nano : Nat
  hour_lt : hour < 24
  minute_lt : minute < 60
  second_le : second ≤ 60
  nano_lt : nano < 1000000000
  deriving DecidableEq, Repr

namespace Instant

/-- The years that an instant can lie in. -/
def yearInRange (year : Int) : Bool :=
  -262143 ≤ year && year ≤ 262142

/-- Earlier instants are smaller. -/
def compare (a b : Instant) : Ordering :=
  (a.date.compare b.date).then <|
    (Ord.compare a.hour b.hour).then <|
      (Ord.compare a.minute b.minute).then <|
        (Ord.compare a.second b.second).then <| Ord.compare a.nano b.nano

/-- The instant with its fraction of a second cut to milliseconds. -/
def cutToMillis (instant : Instant) : Instant :=
  { instant with
    nano := instant.nano / 1000000 * 1000000
    nano_lt := by have := instant.nano_lt; omega }

/-- The instant at which a clock shows the given date and time, when it is ahead of coordinated
universal time by `offset` minutes, less than a day. -/
def ofLocal? (date : Date) (hour minute second nano : Nat) (offset : Int) : Option Instant :=
  -- Less than a day apart, so the date in coordinated universal time is a neighbour at most.
  let clock : Int := 60 * hour + minute - offset
  let utcDate := if clock < 0 then date.previous else if clock < 1440 then date else date.next
  let utcMinute := (clock % 1440).toNat
  if h : hour < 24 ∧ minute < 60 ∧ second ≤ 60 ∧ nano < 1000000000 ∧
      yearInRange date.year = true ∧ yearInRange utcDate.year = true ∧ offset.natAbs < 1440 then
    some {
      date := utcDate
      hour := utcMinute / 60
      minute := utcMinute % 60
      second, nano
      hour_lt := by omega
      minute_lt := by omega
      second_le := h.2.2.1
      nano_lt := h.2.2.2.1 }
  else
    none

/-- A clock without offset shows the instant itself. -/
theorem ofLocal?_self (instant : Instant) (range : yearInRange instant.date.year = true) :
    ofLocal? instant.date instant.hour instant.minute instant.second instant.nano 0 =
      some instant := by
  obtain ⟨date, hour, minute, second, nano, hour_lt, minute_lt, second_le, nano_lt⟩ := instant
  have clock : ¬ (60 * (hour : Int) + minute - 0 < 0) := by omega
  have day : 60 * (hour : Int) + minute - 0 < 1440 := by omega
  have start : ((60 * (hour : Int) + minute - 0) % 1440).toNat = 60 * hour + minute := by omega
  simp only [ofLocal?, clock, day, start, if_true, if_false]
  rw [dif_pos ⟨hour_lt, minute_lt, second_le, nano_lt, range, range, by decide⟩]
  congr 2 <;> omega

end Instant
end Hardening.Time
