import Hardening.Proofs.CalendarDays
import Hardening.Proofs.InstantText
import Hardening.Proofs.JsonLayout

/-!
# Times written with an offset

A time may be written as a clock anywhere shows it, with the offset of that clock. It is read as the
one instant that it stands for: so many minutes on the count of days, with its second and its fraction
as they are written. Whatever is read, the exact form of the instant holds all of it.
-/
namespace Hardening

/-- The first nine digits of a fraction are its billionths, and what follows them is cut. -/
theorem Text.ofDigits_take_nine {run : List Char} (all : ∀ c ∈ run, c.isDigit = true) :
    ofDigits ((run ++ List.replicate 9 '0').take 9) =
      1000000000 * ofDigits run / Nat.pow 10 run.length := by
  -- Nine zeros behind the run multiply its number; the digits past the ninth are less than one unit.
  have whole := ofDigits_append_zeros run 9
  have filled := List.take_append_drop 9 (run ++ List.replicate 9 '0')
  have length : ((run ++ List.replicate 9 '0').drop 9).length = run.length := by simp
  have digits : ∀ c ∈ (run ++ List.replicate 9 '0').drop 9, c.isDigit = true := by
    intro c member
    rcases List.mem_append.mp (List.mem_of_mem_drop member) with inside | zero
    · exact all c inside
    · rw [List.eq_of_mem_replicate zero]
      rfl
  have rest := ofDigits_lt digits
  rw [← filled, ofDigits_append, length] at whole
  rw [length] at rest
  symm
  refine Nat.div_eq_of_lt_le ?_ ?_
  · change _ ≤ Nat.pow 10 9 * _
    rw [← whole, Nat.mul_comm]
    exact Nat.le_add_right _ _
  · change Nat.pow 10 9 * _ < _
    rw [← whole, Nat.add_mul, Nat.one_mul, Nat.mul_comm]
    exact Nat.add_lt_add_left rest _

namespace Time

/-- How far a clock is ahead of coordinated universal time, as it is written. -/
inductive Zone where
  | utc (mark : Char) (known : mark = 'Z' ∨ mark = 'z')
  | ahead (hours minutes : Nat) (within : hours < 24 ∧ minutes < 60)
  | behind (hours minutes : Nat) (within : hours < 24 ∧ minutes < 60)

namespace Zone

def digits (hours minutes : Nat) : List Char :=
  Text.paddedDigits 2 hours ++ ':' :: Text.paddedDigits 2 minutes

def chars : Zone → List Char
  | utc mark _ => [mark]
  | ahead hours minutes _ => '+' :: digits hours minutes
  | behind hours minutes _ => '-' :: digits hours minutes

/-- The minutes that the clock is ahead. -/
def offset : Zone → Int
  | utc _ _ => 0
  | ahead hours minutes _ => 60 * hours + minutes
  | behind hours minutes _ => -(60 * hours + minutes)

theorem offset_lt (zone : Zone) : zone.offset.natAbs < 1440 := by
  cases zone <;> simp only [offset] <;> omega

private theorem paddedDigits_two : ∀ n < 100,
    Text.paddedDigits 2 n = [Nat.digitChar (n / 10), Nat.digitChar (n % 10)] := by
  decide

theorem readPair_padded {bound : Char} {n : Nat} (fits : n < 100)
    (below : Nat.digitChar (n / 10) < bound) (rest : List Char) :
    readPair bound (Text.paddedDigits 2 n ++ rest) = some (n, rest) := by
  have value := Text.ofDigits_paddedDigits 2 n
  have all : ∀ c ∈ Text.paddedDigits 2 n, c.isDigit = true := fun _ => Text.isDigit_paddedDigits
  rw [paddedDigits_two n fits] at value all ⊢
  simp_all [readPair]

theorem readOffsetMinutes_digits {hours minutes : Nat} (within : hours < 24 ∧ minutes < 60) :
    readOffsetMinutes (digits hours minutes) = some (60 * hours + minutes, []) := by
  have hoursBelow : ∀ n < 24, Nat.digitChar (n / 10) < ':' := by decide
  have minutesBelow : ∀ n < 60, Nat.digitChar (n / 10) < '6' := by decide
  have marks : ∀ n < 60, skipOffsetMarks (':' :: Text.paddedDigits 2 n) =
      Text.paddedDigits 2 n := by decide
  -- A leading digit below the bound is what tells hours and minutes from the numbers past them.
  have front := readPair_padded (by omega) (hoursBelow hours within.1)
    (':' :: Text.paddedDigits 2 minutes)
  have back := readPair_padded (by omega) (minutesBelow minutes within.2) []
  rw [List.append_nil] at back
  simp [readOffsetMinutes, digits, front, marks minutes within.2, back]

theorem readOffset_chars (zone : Zone) :
    readOffset (skipBlanks zone.chars) = some (zone.offset, []) := by
  cases zone with
  | utc mark known => rcases known with rfl | rfl <;> rfl
  | ahead hours minutes within =>
    rw [chars, skipBlanks_cons _ rfl, readOffset, readOffsetMinutes_digits within]
    rfl
  | behind hours minutes within =>
    rw [chars, skipBlanks_cons _ rfl, readOffset, readOffsetMinutes_digits within]
    rfl

/-- No digit of a fraction can be taken for the zone. -/
theorem noDigit_chars (zone : Zone) : Text.NoDigit zone.chars := by
  rintro c starts
  cases zone with
  | utc mark known =>
    cases starts
    rcases known with rfl | rfl <;> rfl
  | ahead => cases starts; rfl
  | behind => cases starts; rfl

theorem readNano_chars (zone : Zone) : readNano zone.chars = some (0, zone.chars) := by
  cases zone with
  | utc mark known => rcases known with rfl | rfl <;> rfl
  | ahead => rfl
  | behind => rfl

end Zone

/-- The minutes from the beginning of year 1 to a time of day. -/
def minutesTo (date : Date) (hour minute : Nat) : Int :=
  1440 * (date.dayNumber - 1) + 60 * hour + minute

/-- A date and a time of day as they may be written, with any number of fraction digits. -/
structure ZonedTime where
  date : Date
  separator : Char
  hour : Nat
  minute : Nat
  second : Nat
  fraction : List Char
  zone : Zone
  year_short : 0 ≤ date.year ∧ date.year ≤ 9999
  separates : separator = 'T' ∨ separator = 't' ∨ separator = ' '
  shown : hour < 24 ∧ minute < 60 ∧ second ≤ 60
  fraction_digits : ∀ c ∈ fraction, c.isDigit = true

namespace ZonedTime

variable (time : ZonedTime)

/-- The point is left out with the last digit. -/
def fractionChars : List Char :=
  if time.fraction = [] then [] else '.' :: time.fraction

def text : String :=
  String.ofList (timeDigits time.date time.separator time.hour time.minute time.second
    (time.fractionChars ++ time.zone.chars))

/-- The whole billionths of a second in the fraction. -/
def nano : Nat :=
  1000000000 * Text.ofDigits time.fraction / Nat.pow 10 time.fraction.length

/-- The instant at which the clock shows the time. -/
structure At (instant : Instant) : Prop where
  minutes : minutesTo instant.date instant.hour instant.minute =
    minutesTo time.date time.hour time.minute - time.zone.offset
  second : instant.second = time.second
  nano : instant.nano = time.nano

theorem nano_lt : time.nano < 1000000000 := by
  have below := Text.ofDigits_lt time.fraction_digits
  refine Nat.div_lt_of_lt_mul ?_
  omega

theorem readNano_fractionChars :
    readNano (time.fractionChars ++ time.zone.chars) = some (time.nano, time.zone.chars) := by
  unfold fractionChars
  split
  next empty =>
    have none : time.nano = 0 := by rw [nano, empty]; rfl
    rw [none]
    exact time.zone.readNano_chars
  next filled =>
    have read := readNano_digits filled time.fraction_digits time.zone.noDigit_chars
    rwa [Text.ofDigits_take_nine time.fraction_digits] at read

/-- No second instant is meant by a time: its minutes give the day, the hour and the minute. -/
theorem At.unique {time : ZonedTime} {instant other : Instant} (first : time.At instant)
    (second : time.At other) : instant = other := by
  have minutes := first.minutes.trans second.minutes.symm
  have hour := instant.hour_lt
  have minute := instant.minute_lt
  have hourToo := other.hour_lt
  have minuteToo := other.minute_lt
  unfold minutesTo at minutes
  -- The time of day is less than a day, so the count of minutes determines the number of the day.
  have date : instant.date = other.date := Date.dayNumber_inj (by omega)
  rw [date] at minutes
  have same : instant.hour = other.hour ∧ instant.minute = other.minute := by omega
  have seconds := first.second.trans second.second.symm
  have nanos := first.nano.trans second.nano.symm
  cases instant
  cases other
  simp_all

end ZonedTime

/-- The date of a clock that is less than a day behind or ahead: the same one or a neighbour. -/
theorem neighbour_date (date : Date) {clock : Int} (near : -1440 < clock ∧ clock < 2880) :
    let there := if clock < 0 then date.previous else if clock < 1440 then date else date.next
    1440 * there.dayNumber + clock % 1440 = 1440 * date.dayNumber + clock ∧
      date.year - 1 ≤ there.year ∧ there.year ≤ date.year + 1 := by
  -- The count is settled by the numbers of the days; the year changes at one end of it only.
  have before := date.dayNumber_previous
  have after := date.dayNumber_next
  dsimp only
  split
  next =>
    have year : date.previous.year = date.year ∨ date.previous.year = date.year - 1 := by
      unfold Date.previous
      split
      · exact Or.inl rfl
      · split
        · exact Or.inl rfl
        · exact Or.inr rfl
    omega
  next =>
    split
    next => omega
    next =>
      have year : date.next.year = date.year ∨ date.next.year = date.year + 1 := by
        unfold Date.next
        split
        · exact Or.inl rfl
        · split
          · exact Or.inl rfl
          · exact Or.inr rfl
      omega

/-- Taking the offset off moves a time by that many minutes, over the ends of days, months and years. -/
theorem ofLocal?_minutes {date : Date} {hour minute second nano : Nat} {offset : Int}
    (year : 0 ≤ date.year ∧ date.year ≤ 9999) (hour_lt : hour < 24) (minute_lt : minute < 60)
    (second_le : second ≤ 60) (nano_lt : nano < 1000000000) (offset_lt : offset.natAbs < 1440) :
    ∃ instant, Instant.ofLocal? date hour minute second nano offset = some instant ∧
      minutesTo instant.date instant.hour instant.minute = minutesTo date hour minute - offset ∧
      instant.second = second ∧ instant.nano = nano := by
  obtain ⟨count, near⟩ := neighbour_date date
    (show -1440 < 60 * (hour : Int) + minute - offset ∧ 60 * (hour : Int) + minute - offset < 2880 by
      omega)
  have range := Instant.yearInRange_of_near (show -1 ≤ date.year ∧ date.year ≤ 10000 by omega)
  have rangeThere := Instant.yearInRange_of_near
    ⟨Int.le_trans (by omega) near.1, Int.le_trans near.2 (by omega)⟩
  refine ⟨_, dif_pos ⟨hour_lt, minute_lt, second_le, nano_lt, range, rangeThere, offset_lt⟩, ?_, rfl,
    rfl⟩
  simp only [minutesTo]
  omega

namespace ZonedTime

/-- A written time is read, as the instant at which the clock shows it. -/
theorem ofText?_text (time : ZonedTime) :
    ∃ instant, Instant.ofText? time.text = some instant ∧ time.At instant := by
  obtain ⟨hour_lt, minute_lt, second_le⟩ := time.shown
  obtain ⟨instant, made, minutes, second, nano⟩ := ofLocal?_minutes time.year_short hour_lt
    minute_lt second_le time.nano_lt time.zone.offset_lt
  have separates (rest : List Char) : readSeparator (time.separator :: rest) = some rest := by
    rcases time.separates with same | same | same <;> rw [same] <;> rfl
  refine ⟨instant, ?_, minutes, second, nano⟩
  rw [Instant.ofText?, text, String.toList_ofList]
  exact readAll?_timeDigits made separates hour_lt minute_lt second_le
    time.readNano_fractionChars time.zone.readOffset_chars

end ZonedTime

namespace Instant

/-- Every time with an offset is read, as the one instant that it stands for. Whatever is read, its
exact form is read back as the same instant, so writing it again changes nothing; and as a string of
JSON it is read back too. -/
theorem ofText?_again :
    (∀ time : ZonedTime, ∃ instant, ofText? time.text = some instant ∧
      ∀ other, time.At other ↔ other = instant) ∧
    ∀ (written : String) (instant : Instant), ofText? written = some instant →
      ofText? instant.text = some instant ∧
      (ofText? instant.text).map text = some instant.text ∧
      Json.ofText? (Json.string instant.text).pretty = some (.string instant.text) := by
  constructor
  · intro time
    obtain ⟨instant, read, at_⟩ := time.ofText?_text
    refine ⟨instant, read, fun other => ⟨fun too => too.unique at_, ?_⟩⟩
    rintro rfl
    exact at_
  · intro written instant read
    have again := ofText?_text instant (yearInRange_of_ofText? read)
    exact ⟨again, by rw [again]; rfl, Json.ofText?_pretty trivial⟩

/-- A leap second at the end of a year, half an hour behind. -/
def yearEnd : ZonedTime where
  date := (Date.of? 1999 12 31).get (by decide)
  separator := 't'
  hour := 23
  minute := 30
  second := 60
  fraction := "1234567899".toList
  zone := .behind 0 30 (by decide)
  year_short := by decide
  separates := by decide
  shown := by decide
  fraction_digits := List.all_eq_true.mp rfl

/-- It is in the next year, keeps its second, and has nine digits of its fraction. -/
theorem ofText?_again_yearEnd :
    yearEnd.text = "1999-12-31t23:30:60.1234567899-00:30" ∧
    ∃ instant, ofText? yearEnd.text = some instant ∧
      instant.text = "2000-01-01T00:00:60.123456789Z" ∧ ofText? instant.text = some instant := by
  have written : (ofText? yearEnd.text).map text = some "2000-01-01T00:00:60.123456789Z" := by
    decide +kernel
  obtain ⟨instant, read, -⟩ := ofText?_again.1 yearEnd
  rw [read] at written
  exact ⟨by decide +kernel, instant, read, Option.some.inj written,
    (ofText?_again.2 _ instant read).1⟩

end Instant
end Time
end Hardening
