import Hardening.Text.Blank
import Hardening.Text.Digits
import Hardening.Time.Instant

/-!
# Reading instants

A written instant is a date, one of the separators `T`, `t` and space, a time of day with an
optional fraction of a second, and the offset of the clock. Blanks may stand before every number
and around the marks between them; leading zeros may be missing. The result is the instant in
coordinated universal time.
-/
namespace Hardening.Time

def skipBlanks (text : List Char) : List Char :=
  text.dropWhile Text.isBlank

/-- Reads a number of at most `width` digits, after blanks. -/
def readNumber (width : Nat) (text : List Char) : Option (Nat × List Char) :=
  let text := skipBlanks text
  match (text.take width).takeWhile Char.isDigit with
  | [] => none
  | digits => some (Text.ofDigits digits, text.drop digits.length)

/-- Reads a number of any length. -/
def readLongNumber (text : List Char) : Option (Nat × List Char) :=
  match Text.spanDigits text with
  | ([], _) => none
  | (digits, rest) => some (Text.ofDigits digits, rest)

/-- A year has four digits at most, unless it carries a sign. -/
def readYear (text : List Char) : Option (Int × List Char) :=
  match skipBlanks text with
  | '-' :: rest => (readLongNumber rest).map fun (year, rest) => (-(year : Int), rest)
  | '+' :: rest => (readLongNumber rest).map fun (year, rest) => ((year : Int), rest)
  | rest => (readNumber 4 rest).map fun (year, rest) => ((year : Int), rest)

/-- Reads one mark, after blanks. -/
def readMark (mark : Char) (text : List Char) : Option (List Char) :=
  match skipBlanks text with
  | c :: rest => if c = mark then some rest else none
  | [] => none

def readSeparator : List Char → Option (List Char)
  | 'T' :: rest | 't' :: rest | ' ' :: rest => some rest
  | _ => none

/-- The nanoseconds of a fraction, if there is one; digits after the ninth are dropped. -/
def readNano : List Char → Option (Nat × List Char)
  | '.' :: rest =>
    match Text.spanDigits rest with
    | ([], _) => none
    | (digits, rest) =>
      some (Text.ofDigits ((digits ++ List.replicate 9 '0').take 9), rest)
  | rest => some (0, rest)

/-- Two digits, the first of them below the given one. -/
def readPair (bound : Char) : List Char → Option (Nat × List Char)
  | a :: b :: rest =>
    if a.isDigit && a < bound && b.isDigit then some (Text.ofDigits [a, b], rest) else none
  | _ => none

/-- Colons and blanks between the hours and minutes of an offset. -/
def skipOffsetMarks (text : List Char) : List Char :=
  text.dropWhile fun c => c = ':' || Text.isBlank c

/-- Hours and minutes of an offset, in minutes. -/
def readOffsetMinutes (text : List Char) : Option (Nat × List Char) := do
  let (hours, rest) ← readPair ':' text
  let (minutes, rest) ← readPair '6' (skipOffsetMarks rest)
  return (60 * hours + minutes, rest)

/-- Reads how many minutes the clock is ahead. -/
def readOffset : List Char → Option (Int × List Char)
  | 'Z' :: rest | 'z' :: rest => some (0, rest)
  | '+' :: rest => (readOffsetMinutes rest).map fun (minutes, rest) => ((minutes : Int), rest)
  | '-' :: rest | '\u2212' :: rest =>
    (readOffsetMinutes rest).map fun (minutes, rest) => (-(minutes : Int), rest)
  | u :: t :: c :: rest =>
    if u.toLower = 'u' && t.toLower = 't' && c.toLower = 'c' then some (0, rest) else none
  | _ => none

def readDate (text : List Char) : Option (Date × List Char) := do
  let (year, rest) ← readYear text
  let rest ← readMark '-' rest
  let (month, rest) ← readNumber 2 rest
  let rest ← readMark '-' rest
  let (day, rest) ← readNumber 2 rest
  let date ← Date.of? year month day
  return (date, rest)

namespace Instant

/-- Reads an instant that fills the text, blanks at the end aside. -/
def readAll? (text : List Char) : Option Instant := do
  let (date, rest) ← readDate text
  let rest ← readSeparator rest
  let (hour, rest) ← readNumber 2 rest
  let rest ← readMark ':' rest
  let (minute, rest) ← readNumber 2 rest
  let rest ← readMark ':' rest
  let (second, rest) ← readNumber 2 rest
  let (nano, rest) ← readNano rest
  let (offset, rest) ← readOffset (skipBlanks rest)
  guard (skipBlanks rest = [])
  ofLocal? date hour minute second nano offset

def ofText? (text : String) : Option Instant :=
  readAll? text.toList

end Instant
end Hardening.Time
