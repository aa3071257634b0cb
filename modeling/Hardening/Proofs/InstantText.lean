import Hardening.Proofs.DecimalDigits
import Hardening.Time.Reader
import Hardening.Time.Written

/-!
# Instants there and back

The exact form of an instant is read back as that instant, for all years that can be read at all.
-/
namespace Hardening.Time

open Text (NoDigit)

section Parts

theorem not_isBlank_of_isDigit {c : Char} (digit : c.isDigit = true) : Text.isBlank c = false := by
  obtain ⟨low, high⟩ := Char.isDigit_iff_toNat.mp digit
  have zero : '0'.toNat = 48 := rfl
  have nine : '9'.toNat = 57 := rfl
  simp only [Text.isBlank, Text.blankRanges, List.any_cons, List.any_nil, Bool.or_eq_false_iff,
    Bool.and_eq_false_iff, decide_eq_false_iff_not, eq_self, and_true]
  omega

theorem skipBlanks_cons {c : Char} (rest : List Char) (visible : Text.isBlank c = false) :
    skipBlanks (c :: rest) = c :: rest := by
  simp [skipBlanks, visible]

theorem skipBlanks_digits {run : List Char} (filled : run ≠ []) (all : ∀ c ∈ run, c.isDigit = true)
    (rest : List Char) : skipBlanks (run ++ rest) = run ++ rest := by
  cases run with
  | nil => exact absurd rfl filled
  | cons c run => exact skipBlanks_cons _ (not_isBlank_of_isDigit (all c List.mem_cons_self))

/-- A number of a fixed width is read back from its digits. -/
theorem readNumber_padded {width n : Nat} (some : 0 < width) (fits : n < Nat.pow 10 width)
    (rest : List Char) :
    readNumber width (Text.paddedDigits width n ++ rest) = Option.some (n, rest) := by
  have length := Text.length_paddedDigits some fits
  have filled := Text.paddedDigits_ne_nil width n
  have all : ∀ c ∈ Text.paddedDigits width n, c.isDigit = true := fun _ => Text.isDigit_paddedDigits
  have front : (Text.paddedDigits width n ++ rest).take width = Text.paddedDigits width n :=
    List.take_left' length
  have none : NoDigit [] := nofun
  have span := Text.spanDigits_of_all all none
  rw [List.append_nil] at span
  have run : (Text.paddedDigits width n).takeWhile Char.isDigit = Text.paddedDigits width n :=
    congrArg Prod.fst span
  have back : (Text.paddedDigits width n ++ rest).drop (Text.paddedDigits width n).length = rest :=
    List.drop_left
  rw [readNumber, skipBlanks_digits filled all]
  simp only [front, run, back, Text.ofDigits_paddedDigits]

theorem readMark_self {mark : Char} (rest : List Char) (visible : Text.isBlank mark = false) :
    readMark mark (mark :: rest) = some rest := by
  rw [readMark, skipBlanks_cons rest visible]
  exact if_pos rfl

theorem readLongNumber_padded (width n : Nat) {rest : List Char} (ends : NoDigit rest) :
    readLongNumber (Text.paddedDigits width n ++ rest) = some (n, rest) := by
  have all : ∀ c ∈ Text.paddedDigits width n, c.isDigit = true := fun _ => Text.isDigit_paddedDigits
  have span := Text.spanDigits_of_all all ends
  rw [readLongNumber, span]
  split
  next empty => exact absurd (Prod.mk.inj empty).1 (Text.paddedDigits_ne_nil width n)
  next same =>
    cases same
    rw [Text.ofDigits_paddedDigits]

/-- Years of more than four digits and those before year zero are told by their sign. -/
theorem readYear_yearDigits (year : Int) (rest : List Char) :
    readYear (yearDigits year ++ '-' :: rest) = some (year, '-' :: rest) := by
  have ends : NoDigit ('-' :: rest) := by
    rintro c starts
    cases starts
    rfl
  unfold yearDigits
  split
  next short =>
    have fits : year.natAbs < Nat.pow 10 4 := by
      change year.natAbs < 10000
      omega
    have read := readNumber_padded (by decide) fits ('-' :: rest)
    have filled := Text.paddedDigits_ne_nil 4 year.natAbs
    have all : ∀ c ∈ Text.paddedDigits 4 year.natAbs, c.isDigit = true :=
      fun _ => Text.isDigit_paddedDigits
    rw [readYear, skipBlanks_digits filled all]
    -- A sign would be in front of the first digit.
    split
    next same => exact absurd (Text.isDigit_of_append filled all same) (by decide)
    next same => exact absurd (Text.isDigit_of_append filled all same) (by decide)
    next =>
      rw [read]
      simp only [Option.map_some]
      congr 2
      omega
  next =>
    split
    next before =>
      rw [List.cons_append, readYear, skipBlanks_cons _ rfl]
      simp only [readLongNumber_padded 4 year.natAbs ends, Option.map_some]
      congr 2
      omega
    next after =>
      rw [List.cons_append, readYear, skipBlanks_cons _ rfl]
      simp only [readLongNumber_padded 4 year.natAbs ends, Option.map_some]
      congr 2
      omega

/-- All digits behind the point are read, and nine of them are taken. -/
theorem readNano_digits {run rest : List Char} (filled : run ≠ [])
    (all : ∀ c ∈ run, c.isDigit = true) (ends : NoDigit rest) :
    readNano ('.' :: (run ++ rest)) =
      some (Text.ofDigits ((run ++ List.replicate 9 '0').take 9), rest) := by
  rw [readNano, Text.spanDigits_of_all all ends]
  split
  next empty => exact absurd (Prod.mk.inj empty).1 filled
  next same =>
    cases same
    rfl

/-- Missing digits of a fraction count as zeros. -/
theorem readNano_padded {width n : Nat} (some : 0 < width) (short : width ≤ 9)
    (fits : n < Nat.pow 10 width) (rest : List Char) :
    readNano ('.' :: (Text.paddedDigits width n ++ 'Z' :: rest)) =
      Option.some (Nat.pow 10 (9 - width) * n, 'Z' :: rest) := by
  have ends : NoDigit ('Z' :: rest) := by
    rintro c starts
    cases starts
    rfl
  have all : ∀ c ∈ Text.paddedDigits width n, c.isDigit = true := fun _ => Text.isDigit_paddedDigits
  have length := Text.length_paddedDigits some fits
  have filled : (Text.paddedDigits width n ++ List.replicate 9 '0').take 9 =
      Text.paddedDigits width n ++ List.replicate (9 - width) '0' := by
    rw [List.take_append, length, List.take_of_length_le (by omega), List.take_replicate]
    congr 2
    omega
  rw [readNano_digits (Text.paddedDigits_ne_nil width n) all ends, filled,
    Text.ofDigits_append_zeros, Text.ofDigits_paddedDigits]

theorem readNano_fractionDigits {nano : Nat} (fits : nano < 1000000000) (rest : List Char) :
    readNano (fractionDigits nano ++ 'Z' :: rest) = some (nano, 'Z' :: rest) := by
  unfold fractionDigits
  -- None, three, six or nine digits, as many as the fraction needs.
  split
  next zero => rw [zero]; rfl
  next =>
    split
    next thousandths =>
      have three : nano / 1000000 < Nat.pow 10 3 := by change _ < 1000; omega
      have all : Nat.pow 10 (9 - 3) * (nano / 1000000) = nano := by change 1000000 * _ = _; omega
      rw [List.cons_append, readNano_padded (by decide) (by decide) three, all]
    next =>
      split
      next millionths =>
        have six : nano / 1000 < Nat.pow 10 6 := by change _ < 1000000; omega
        have all : Nat.pow 10 (9 - 6) * (nano / 1000) = nano := by change 1000 * _ = _; omega
        rw [List.cons_append, readNano_padded (by decide) (by decide) six, all]
      next =>
        have all : Nat.pow 10 (9 - 9) * nano = nano := Nat.one_mul nano
        rw [List.cons_append, readNano_padded (by decide) (by decide) fits, all]

theorem readDate_digits (date : Date) (rest : List Char) :
    readDate (yearDigits date.year ++ '-' :: (Text.paddedDigits 2 date.month ++
      '-' :: (Text.paddedDigits 2 date.day ++ rest))) = some (date, rest) := by
  have month : date.month < Nat.pow 10 2 := Nat.lt_of_le_of_lt date.month_le (by decide)
  have day : date.day < Nat.pow 10 2 :=
    Nat.lt_of_le_of_lt (Nat.le_trans date.day_le (daysInMonth_le ..)) (by decide)
  simp only [readDate, readYear_yearDigits, Option.bind_eq_bind, Option.bind_some,
    readMark_self _ (show Text.isBlank '-' = false from rfl),
    readNumber_padded (by decide) month, readNumber_padded (by decide) day, Date.of?_self]
  rfl

/-- The digits of a date and a time of day to the second, and what follows them. -/
def timeDigits (date : Date) (separator : Char) (hour minute second : Nat) (rest : List Char) :
    List Char :=
  yearDigits date.year ++ '-' :: (Text.paddedDigits 2 date.month ++
    '-' :: (Text.paddedDigits 2 date.day ++ separator :: (Text.paddedDigits 2 hour ++
    ':' :: (Text.paddedDigits 2 minute ++ ':' :: (Text.paddedDigits 2 second ++ rest)))))

/-- A written time is read as the instant that its numbers come to. -/
theorem readAll?_timeDigits {date : Date} {separator : Char} {hour minute second nano : Nat}
    {offset : Int} {fraction zone : List Char} {instant : Instant}
    (made : Instant.ofLocal? date hour minute second nano offset = some instant)
    (separates : ∀ rest, readSeparator (separator :: rest) = some rest) (hour_lt : hour < 24)
    (minute_lt : minute < 60) (second_le : second ≤ 60)
    (readsNano : readNano (fraction ++ zone) = some (nano, zone))
    (readsOffset : readOffset (skipBlanks zone) = some (offset, [])) :
    Instant.readAll? (timeDigits date separator hour minute second (fraction ++ zone)) =
      some instant := by
  have hourDigits : hour < Nat.pow 10 2 := Nat.lt_trans hour_lt (by decide)
  have minuteDigits : minute < Nat.pow 10 2 := Nat.lt_trans minute_lt (by decide)
  have secondDigits : second < Nat.pow 10 2 := Nat.lt_of_le_of_lt second_le (by decide)
  have colon (rest : List Char) : readMark ':' (':' :: rest) = some rest := readMark_self rest rfl
  -- Each part is read where the one in front of it ends.
  refine Option.bind_eq_some_iff.mpr ⟨_, readDate_digits date _, ?_⟩
  refine Option.bind_eq_some_iff.mpr ⟨_, separates _, ?_⟩
  refine Option.bind_eq_some_iff.mpr ⟨_, readNumber_padded (by decide) hourDigits _, ?_⟩
  refine Option.bind_eq_some_iff.mpr ⟨_, colon _, ?_⟩
  refine Option.bind_eq_some_iff.mpr ⟨_, readNumber_padded (by decide) minuteDigits _, ?_⟩
  refine Option.bind_eq_some_iff.mpr ⟨_, colon _, ?_⟩
  refine Option.bind_eq_some_iff.mpr ⟨_, readNumber_padded (by decide) secondDigits _, ?_⟩
  refine Option.bind_eq_some_iff.mpr ⟨_, readsNano, ?_⟩
  refine Option.bind_eq_some_iff.mpr ⟨_, readsOffset, ?_⟩
  exact Option.bind_eq_some_iff.mpr ⟨(), rfl, made⟩

end Parts

namespace Instant

/-- The years of four digits, and those next to them, are far from the ends of the range. -/
theorem yearInRange_of_near {year : Int} (near : -1 ≤ year ∧ year ≤ 10000) :
    yearInRange year = true := by
  have wide : -262143 ≤ year ∧ year ≤ 262142 := by omega
  simpa [yearInRange] using wide

theorem wholeSeconds_append (instant : Instant) (rest : List Char) :
    instant.wholeSeconds ++ rest =
      timeDigits instant.date 'T' instant.hour instant.minute instant.second rest := by
  simp [wholeSeconds, timeDigits]

/-- A fraction that is read as that of the instant may be written behind its whole seconds. -/
theorem ofText?_wholeSeconds {instant : Instant} (range : yearInRange instant.date.year = true)
    {fraction : List Char} (reads : readNano (fraction ++ ['Z']) = some (instant.nano, ['Z'])) :
    ofText? (String.ofList (instant.wholeSeconds ++ fraction ++ ['Z'])) = some instant := by
  rw [ofText?, String.toList_ofList, List.append_assoc, wholeSeconds_append]
  exact readAll?_timeDigits (ofLocal?_self instant range) (fun _ => rfl) instant.hour_lt
    instant.minute_lt instant.second_le reads rfl

/-- The exact form of an instant is read back as the instant. -/
theorem ofText?_text (instant : Instant) (range : yearInRange instant.date.year = true) :
    ofText? instant.text = some instant :=
  ofText?_wholeSeconds range (readNano_fractionDigits instant.nano_lt [])

theorem yearInRange_of_ofLocal? {date : Date} {hour minute second nano : Nat} {offset : Int}
    {instant : Instant} (made : ofLocal? date hour minute second nano offset = some instant) :
    yearInRange instant.date.year = true := by
  simp only [ofLocal?, Option.dite_none_right_eq_some, Option.some.injEq] at made
  obtain ⟨⟨_, _, _, _, _, range, _⟩, rfl⟩ := made
  exact range

/-- What can be read at all lies in a year that can be written and read. -/
theorem yearInRange_of_ofText? {text : String} {instant : Instant}
    (read : ofText? text = some instant) : yearInRange instant.date.year = true := by
  -- The last step puts together what the ten before it have read.
  iterate 10 obtain ⟨_, -, read⟩ := Option.bind_eq_some_iff.mp read
  exact yearInRange_of_ofLocal? read

end Instant

end Hardening.Time
