import Hardening.Json.Value
import Hardening.Text.Digits

/-!
# Written numbers

The grammar of JSON numbers, and the numbers whose size a double can hold. Larger ones obey the
grammar but denote no value.
-/
namespace Hardening.Json.Number

/-- Reads digits, of which there has to be one. -/
def someDigits (text : List Char) : Option (List Char × List Char) :=
  match Text.spanDigits text with
  | ([], _) => none
  | result => some result

/-- The digits after a point, if there is one. -/
def readFraction : List Char → Option (List Char × List Char)
  | '.' :: rest => someDigits rest
  | rest => some ([], rest)

/-- The exponent, if there is one. -/
def readExponent : List Char → Option (Option Int × List Char)
  | 'e' :: rest | 'E' :: rest =>
    match rest with
    | '-' :: rest => (someDigits rest).map fun (ds, rest) => (some (-(Text.ofDigits ds : Int)), rest)
    | '+' :: rest => (someDigits rest).map fun (ds, rest) => (some (Text.ofDigits ds : Int), rest)
    | rest => (someDigits rest).map fun (ds, rest) => (some (Text.ofDigits ds : Int), rest)
  | rest => some (none, rest)

/-- A whole part has no zero in front of other digits. -/
def isWhole : List Char → Bool
  | ['0'] => true
  | '0' :: _ => false
  | digits => !digits.isEmpty

/-- A number is negative if a minus sign comes first. -/
def readSign : List Char → Bool × List Char
  | '-' :: rest => (true, rest)
  | rest => (false, rest)

/-- Reads a number from the beginning of a text. -/
def read (text : List Char) : Option (Number × List Char) := do
  let (negative, text) := readSign text
  let (whole, rest) := Text.spanDigits text
  guard (isWhole whole)
  let (fraction, rest) ← readFraction rest
  let (exponent, rest) ← readExponent rest
  return ({ negative, whole := Text.ofDigits whole, fraction, exponent }, rest)

/-- The digits of the number from the first one that is not zero. -/
def significant (number : Number) : List Char :=
  (Text.digits number.whole ++ number.fraction).dropWhile (· = '0')

/-- The smallest magnitude that no double is near to: half a unit above the largest double. -/
def overflowBound : Nat := Nat.pow 2 1024 - Nat.pow 2 970

/-- The number is near to some double. The power of ten of its first digit settles all but the
numbers close to the bound, which are compared exactly. -/
def inRange (number : Number) : Bool :=
  let digits := number.significant
  let shift : Int := number.exponent.getD 0 - number.fraction.length
  let top : Int := digits.length + shift
  -- The bound has 309 digits.
  if digits.isEmpty || top < 309 then true
  else if top > 309 then false
  else if shift ≥ 0 then Text.ofDigits digits * Nat.pow 10 shift.toNat < overflowBound
  else Text.ofDigits digits < overflowBound * Nat.pow 10 (-shift).toNat

/-- The number in its own notation. -/
def write (number : Number) : List Char :=
  (if number.negative then ['-'] else []) ++ Text.digits number.whole ++
  (if number.fraction.isEmpty then [] else '.' :: number.fraction) ++
  (match number.exponent with
    | none => []
    | some (.ofNat e) => 'e' :: Text.digits e
    | some (.negSucc e) => 'e' :: '-' :: Text.digits (e + 1))

end Hardening.Json.Number
