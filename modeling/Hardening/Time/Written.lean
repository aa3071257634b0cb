import Hardening.Text.Digits
import Hardening.Time.Instant

/-!
# Written instants

Instants are written as `2024-03-09T14:05:07Z`. The exact form has as many fraction digits as the
instant needs, in groups of three; the millisecond form always has three and cuts the rest off.
Years outside 0 to 9999 carry a sign.
-/
namespace Hardening.Time

def yearDigits (year : Int) : List Char :=
  if 0 ≤ year ∧ year ≤ 9999 then
    Text.paddedDigits 4 year.natAbs
  else
    (if year < 0 then '-' else '+') :: Text.paddedDigits 4 year.natAbs

/-- The fraction of a second, as short as groups of three digits allow. -/
def fractionDigits (nano : Nat) : List Char :=
  if nano = 0 then []
  else if nano % 1000000 = 0 then '.' :: Text.paddedDigits 3 (nano / 1000000)
  else if nano % 1000 = 0 then '.' :: Text.paddedDigits 6 (nano / 1000)
  else '.' :: Text.paddedDigits 9 nano

namespace Instant

/-- Date and time of day to the second. -/
def wholeSeconds (instant : Instant) : List Char :=
  yearDigits instant.date.year ++
  '-' :: Text.paddedDigits 2 instant.date.month ++
  '-' :: Text.paddedDigits 2 instant.date.day ++
  'T' :: Text.paddedDigits 2 instant.hour ++
  ':' :: Text.paddedDigits 2 instant.minute ++
  ':' :: Text.paddedDigits 2 instant.second

/-- The exact form. -/
def text (instant : Instant) : String :=
  String.ofList (instant.wholeSeconds ++ fractionDigits instant.nano ++ ['Z'])

/-- The form with milliseconds. -/
def millisText (instant : Instant) : String :=
  String.ofList
    (instant.wholeSeconds ++ '.' :: Text.paddedDigits 3 (instant.nano / 1000000) ++ ['Z'])

end Instant
end Hardening.Time
