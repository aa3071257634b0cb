import Hardening.Time.Instant

/-!
# Clock readings

A clock counts the nanoseconds since the beginning of 1970 in coordinated universal time and leaves
leap seconds out, so every day has 86400 seconds.
-/
namespace Hardening.Time

/-- The day on which clocks begin to count. -/
def epoch : Date :=
  ⟨1970, 1, 1, by decide, by decide, by decide, by decide⟩

/-- The date a number of days later. -/
def Date.after (date : Date) (days : Nat) : Date :=
  Nat.repeat Date.next days date

theorem Date.after_zero (date : Date) : date.after 0 = date :=
  rfl

theorem Date.after_succ (date : Date) (days : Nat) :
    date.after (days + 1) = (date.after days).next :=
  rfl

/-- The instant that a clock shows. -/
def Instant.ofClock (nanos : Nat) : Instant where
  date := epoch.after (nanos / 1000000000 / 86400)
  hour := nanos / 1000000000 % 86400 / 3600
  minute := nanos / 1000000000 % 3600 / 60
  second := nanos / 1000000000 % 60
  nano := nanos % 1000000000
  hour_lt := by omega
  minute_lt := by omega
  second_le := by omega
  nano_lt := by omega

end Hardening.Time
