import Hardening.Proofs.InstantText

/-!
# The order of written instants

In the form with milliseconds every number has a fixed width, larger parts stand in front of smaller
ones, and the fraction is cut. So the forms of two instants are ordered as texts like the instants cut
to milliseconds are in time, and cutting does not put a later instant in front of an earlier one.
-/
namespace Hardening

namespace Text

/-- Texts that begin with runs of one length are ordered by these runs first. -/
theorem append_lt_append_iff {front other rest more : List Char}
    (same : front.length = other.length) :
    front ++ rest < other ++ more ↔ front < other ∨ front = other ∧ rest < more := by
  induction front generalizing other with
  | nil =>
    obtain rfl := List.length_eq_zero_iff.mp same.symm
    simp
  | cons c front ih =>
    cases other with
    | nil => cases same
    | cons d other =>
      rw [List.cons_append, List.cons_append, List.cons_lt_cons_iff, List.cons_lt_cons_iff,
        ih (Nat.succ.inj same), List.cons.injEq, and_or_left, or_assoc, and_assoc]

/-- Numbers of two digits in any base are ordered by the first digits, then by the second ones. -/
theorem mul_add_lt_iff {base m n x y : Nat} (x_lt : x < base) (y_lt : y < base) :
    base * m + x < base * n + y ↔ m < n ∨ m = n ∧ x < y := by
  rcases Nat.lt_trichotomy m n with less | rfl | more
  · have step : base * (m + 1) ≤ base * n := Nat.mul_le_mul_left _ less
    rw [Nat.mul_succ] at step
    omega
  · omega
  · have step : base * (n + 1) ≤ base * m := Nat.mul_le_mul_left _ more
    rw [Nat.mul_succ] at step
    omega

/-- Runs of equally many digits are ordered like the numbers that they write. -/
theorem lt_iff_ofDigits_lt {run other : List Char} (all : ∀ c ∈ run, c.isDigit = true)
    (allOther : ∀ c ∈ other, c.isDigit = true) (same : run.length = other.length) :
    run < other ↔ ofDigits run < ofDigits other := by
  induction run generalizing other with
  | nil =>
    obtain rfl := List.length_eq_zero_iff.mp same.symm
    simp
  | cons c run ih =>
    cases other with
    | nil => cases same
    | cons d other =>
      obtain ⟨digit, rest⟩ := List.forall_mem_cons.mp all
      obtain ⟨digitOther, restOther⟩ := List.forall_mem_cons.mp allOther
      have length := Nat.succ.inj same
      have below := ofDigits_lt rest
      have belowOther := ofDigits_lt restOther
      have value := (value_of_isDigit digit).1
      have valueOther := (value_of_isDigit digitOther).1
      -- The first digits decide unless they are the same, for what follows is less than one of them.
      rw [length] at below
      have first : c < d ↔ c.toNat - '0'.toNat < d.toNat - '0'.toNat := by
        change c.toNat < d.toNat ↔ _
        omega
      have equal : c = d ↔ c.toNat - '0'.toNat = d.toNat - '0'.toNat := by
        rw [← Char.toNat_inj]
        omega
      rw [List.cons_lt_cons_iff, ofDigits_cons, ofDigits_cons, length,
        mul_add_lt_iff below belowOther, first, equal, ih rest restOther length]

theorem paddedDigits_inj {width m n : Nat} (same : paddedDigits width m = paddedDigits width n) :
    m = n := by
  rw [← ofDigits_paddedDigits width m, same, ofDigits_paddedDigits]

/-- Texts that begin with numbers of one width are ordered by these numbers first. -/
theorem paddedDigits_append_lt_iff {width m n : Nat} {rest more : List Char} (some : 0 < width)
    (m_fits : m < Nat.pow 10 width) (n_fits : n < Nat.pow 10 width) :
    paddedDigits width m ++ rest < paddedDigits width n ++ more ↔ m < n ∨ m = n ∧ rest < more := by
  have same : (paddedDigits width m).length = (paddedDigits width n).length := by
    rw [length_paddedDigits some m_fits, length_paddedDigits some n_fits]
  have equal : paddedDigits width m = paddedDigits width n ↔ m = n :=
    ⟨paddedDigits_inj, congrArg _⟩
  rw [append_lt_append_iff same, equal,
    lt_iff_ofDigits_lt (fun _ => isDigit_paddedDigits) (fun _ => isDigit_paddedDigits) same,
    ofDigits_paddedDigits, ofDigits_paddedDigits]

end Text

namespace Time

theorem yearDigits_of_short {year : Int} (short : 0 ≤ year ∧ year ≤ 9999) :
    yearDigits year = Text.paddedDigits 4 year.natAbs :=
  if_pos short

namespace Instant

variable {a b : Instant}

/-- The digits of the form with milliseconds, part by part. -/
theorem toList_millisText (instant : Instant) :
    instant.millisText.toList =
      timeDigits instant.date 'T' instant.hour instant.minute instant.second
        ('.' :: (Text.paddedDigits 3 (instant.nano / 1000000) ++ ['Z'])) := by
  simp [millisText, wholeSeconds, timeDigits]

theorem compare_swap (a b : Instant) : (a.compare b).swap = b.compare a := by
  simp only [compare, Date.compare, Ordering.swap_then, Nat.compare_swap, Int.compare_swap]

/-- Cutting does not put a later instant in front of an earlier one. -/
theorem compare_of_cutToMillis (less : a.cutToMillis.compare b.cutToMillis = .lt) :
    a.compare b = .lt := by
  have cut : a.nano / 1000000 * 1000000 < b.nano / 1000000 * 1000000 → a.nano < b.nano := by omega
  simp only [compare, cutToMillis, Ordering.then_eq_lt, Nat.compare_eq_lt] at less ⊢
  grind

/-- All numbers in front of the milliseconds but the year have two digits. -/
theorem parts_lt (instant : Instant) :
    instant.date.month < 100 ∧ instant.date.day < 100 ∧ instant.hour < 100 ∧
      instant.minute < 100 ∧ instant.second < 100 ∧ instant.nano / 1000000 < 1000 := by
  have month := instant.date.month_le
  have day := Nat.le_trans instant.date.day_le (daysInMonth_le ..)
  have hour := instant.hour_lt
  have minute := instant.minute_lt
  have second := instant.second_le
  have nano := instant.nano_lt
  omega

section Short

variable (aYear : 0 ≤ a.date.year ∧ a.date.year ≤ 9999)
  (bYear : 0 ≤ b.date.year ∧ b.date.year ≤ 9999)

include aYear

theorem length_millisText : a.millisText.length = 24 := by
  have two {n : Nat} (fits : n < 100) : (Text.paddedDigits 2 n).length = 2 :=
    Text.length_paddedDigits (by decide) fits
  obtain ⟨month, day, hour, minute, second, millis⟩ := a.parts_lt
  have year : a.date.year.natAbs < Nat.pow 10 4 := by
    change _ < 10000
    omega
  rw [← String.length_toList, toList_millisText, timeDigits, yearDigits_of_short aYear]
  simp [two month, two day, two hour, two minute, two second,
    Text.length_paddedDigits (show 0 < 3 by decide) millis,
    Text.length_paddedDigits (show 0 < 4 by decide) year]

/-- The form with milliseconds is read back as the cut instant. -/
theorem ofText?_millisText : ofText? a.millisText = some a.cutToMillis := by
  have range : yearInRange a.cutToMillis.date.year = true :=
    yearInRange_of_near (show -1 ≤ a.date.year ∧ a.date.year ≤ 10000 by omega)
  obtain ⟨-, -, -, -, -, millis⟩ := a.parts_lt
  have three : a.nano / 1000000 < Nat.pow 10 3 := millis
  have read : readNano ('.' :: (Text.paddedDigits 3 (a.nano / 1000000) ++ ['Z'])) =
      some (1000000 * (a.nano / 1000000), ['Z']) :=
    readNano_padded (by decide) (by decide) three []
  rw [Nat.mul_comm] at read
  exact ofText?_wholeSeconds range read

include bYear

theorem millisText_inj : a.millisText = b.millisText ↔ a.cutToMillis = b.cutToMillis := by
  constructor
  · intro same
    have read := ofText?_millisText aYear
    rw [same, ofText?_millisText bYear] at read
    exact (Option.some.inj read).symm
  · intro same
    have millis : a.nano / 1000000 = b.nano / 1000000 := by
      have cut : a.nano / 1000000 * 1000000 = b.nano / 1000000 * 1000000 := congrArg nano same
      omega
    have whole : a.cutToMillis.wholeSeconds = b.cutToMillis.wholeSeconds := congrArg _ same
    change a.wholeSeconds = b.wholeSeconds at whole
    rw [millisText, millisText, whole, millis]

/-- The forms with milliseconds are ordered as texts like the cut instants in time. -/
theorem millisText_lt_iff :
    a.millisText < b.millisText ↔ a.cutToMillis.compare b.cutToMillis = .lt := by
  have two {m n : Nat} {rest more : List Char} (m_lt : m < 100) (n_lt : n < 100) :
      Text.paddedDigits 2 m ++ rest < Text.paddedDigits 2 n ++ more ↔
        m < n ∨ m = n ∧ rest < more :=
    Text.paddedDigits_append_lt_iff (by decide) m_lt n_lt
  obtain ⟨aMonth, aDay, aHour, aMinute, aSecond, aMillis⟩ := a.parts_lt
  obtain ⟨bMonth, bDay, bHour, bMinute, bSecond, bMillis⟩ := b.parts_lt
  have years : a.date.year.natAbs < 10000 ∧ b.date.year.natAbs < 10000 := by omega
  change a.millisText.toList < b.millisText.toList ↔ _
  rw [toList_millisText, toList_millisText, timeDigits, timeDigits, yearDigits_of_short aYear,
    yearDigits_of_short bYear]
  -- The marks between the numbers are the same, so the numbers decide one after the other.
  rw [Text.paddedDigits_append_lt_iff (by decide) years.1 years.2, List.cons_lt_cons_self,
    two aMonth bMonth, List.cons_lt_cons_self, two aDay bDay, List.cons_lt_cons_self,
    two aHour bHour, List.cons_lt_cons_self, two aMinute bMinute, List.cons_lt_cons_self,
    two aSecond bSecond, List.cons_lt_cons_self,
    Text.paddedDigits_append_lt_iff (by decide) aMillis bMillis]
  have yearLess : a.date.year.natAbs < b.date.year.natAbs ↔ a.date.year < b.date.year := by omega
  have yearSame : a.date.year.natAbs = b.date.year.natAbs ↔ a.date.year = b.date.year := by omega
  have cut : a.nano / 1000000 * 1000000 < b.nano / 1000000 * 1000000 ↔
      a.nano / 1000000 < b.nano / 1000000 := by omega
  simp only [compare, Date.compare, cutToMillis, Ordering.then_assoc, Ordering.then_eq_lt,
    Nat.compare_eq_lt, Int.compare_eq_lt, Std.compare_eq_iff_eq, yearLess, yearSame, cut]
  simp

end Short

/-- In the years of four digits the form with milliseconds has 24 characters and is read back as the
instant without the rest of its fraction. An instant that is not later is not put behind by its form,
and two forms are the same only for instants that are cut to the same one. -/
theorem millisText_order (a b : Instant) (aYear : 0 ≤ a.date.year ∧ a.date.year ≤ 9999)
    (bYear : 0 ≤ b.date.year ∧ b.date.year ≤ 9999) :
    a.millisText.length = 24 ∧ ofText? a.millisText = some a.cutToMillis ∧
    ((a.compare b).isLE = true → a.millisText ≤ b.millisText) ∧
    (a.millisText = b.millisText ↔ a.cutToMillis = b.cutToMillis) := by
  refine ⟨length_millisText aYear, ofText?_millisText aYear, ?_, millisText_inj aYear bYear⟩
  intro earlier later
  -- If the first form were behind, then so would the cut instants be, and the instants with them.
  have after := compare_of_cutToMillis ((millisText_lt_iff bYear aYear).mp later)
  rw [← compare_swap, Ordering.swap_eq_lt] at after
  rw [after] at earlier
  cases earlier

/-- The end of a leap second and the beginning of the year behind it. -/
def leapEnd : Instant :=
  (ofText? "2016-12-31T23:59:60.999999999Z").get (by decide +kernel)

def newYear : Instant :=
  (ofText? "2017-01-01T00:00:00Z").get (by decide +kernel)

/-- A leap second is not rounded up into the next year, and it stays in front of it. -/
theorem millisText_order_leapEnd :
    (0 ≤ leapEnd.date.year ∧ leapEnd.date.year ≤ 9999) ∧
    (0 ≤ newYear.date.year ∧ newYear.date.year ≤ 9999) ∧
    leapEnd.millisText = "2016-12-31T23:59:60.999Z" ∧ leapEnd.millisText.length = 24 ∧
    (leapEnd.compare newYear).isLE = true ∧ leapEnd.millisText ≤ newYear.millisText := by
  have leapYear : 0 ≤ leapEnd.date.year ∧ leapEnd.date.year ≤ 9999 := by decide +kernel
  have nextYear : 0 ≤ newYear.date.year ∧ newYear.date.year ≤ 9999 := by decide +kernel
  have earlier : (leapEnd.compare newYear).isLE = true := by decide +kernel
  obtain ⟨length, -, ordered, -⟩ := millisText_order leapEnd newYear leapYear nextYear
  exact ⟨leapYear, nextYear, by decide +kernel, length, earlier, ordered earlier⟩

end Instant
end Time
end Hardening
