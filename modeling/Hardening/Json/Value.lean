/-!
# JSON values

Objects keep the order of their fields and may name a field more than once; readers decide what
they make of that. Text that obeys the grammar but denotes no value, such as a string with half of
a surrogate pair in it, is kept as an unreadable value: it can be skipped but not read.
-/
namespace Hardening

/-- A number as it is written, so that integers can be told from other notations. -/
structure Json.Number where
  negative : Bool := false
  /-- The digits before the point. -/
  whole : Nat
  /-- The digits after the point; none without a point. -/
  fraction : List Char := []
  exponent : Option Int := none
  deriving Repr, DecidableEq

inductive Json where
  | null
  | bool (value : Bool)
  | number (value : Json.Number)
  | string (value : String)
  | array (items : List Json)
  | object (fields : List (String × Json))
  /-- Well-formed text that denotes no value. -/
  | unreadable
  deriving Repr

namespace Json

def nat (n : Nat) : Json :=
  .number { whole := n }

def int (n : Int) : Json :=
  .number { negative := decide (n < 0), whole := n.natAbs }

/-- `null` for an absent value. -/
def option (encode : α → Json) : Option α → Json
  | none => .null
  | some value => encode value

def strings (values : List String) : Json :=
  .array (values.map .string)

namespace Number

/-- The value of a number written as a plain natural number. -/
def natural? (number : Number) : Option Nat :=
  if number.negative = false ∧ number.fraction = [] ∧ number.exponent = none then
    some number.whole
  else
    none

end Number

def string? : Json → Option String
  | .string value => some value
  | _ => none

def bool? : Json → Option Bool
  | .bool value => some value
  | _ => none

def array? : Json → Option (List Json)
  | .array items => some items
  | _ => none

/-- A natural number that fits into 64 bits, written without point and exponent. -/
def word? : Json → Option Nat
  | .number written => written.natural?.filter (· < UInt64.size)
  | _ => none

/-- The field with a name, if the object has exactly one; `some none` if it has none. A field named
twice makes the object unfit to be read. -/
def field? (fields : List (String × Json)) (name : String) : Option (Option Json) :=
  match fields.filter (·.1 = name) with
  | [] => some none
  | [field] => some (some field.2)
  | _ => none

/-- The field with a name, which has to be there once. -/
def require? (fields : List (String × Json)) (name : String) : Option Json :=
  (field? fields name).join

mutual

/-- Every part of the value denotes something. -/
def readable : Json → Bool
  | .array items => readableItems items
  | .object fields => readableFields fields
  | .unreadable => false
  | _ => true

def readableItems : List Json → Bool
  | [] => true
  | item :: items => readable item && readableItems items

def readableFields : List (String × Json) → Bool
  | [] => true
  | field :: fields => readable field.2 && readableFields fields

end

mutual

/-- Number of arrays and objects around the innermost value, its own included. -/
def depth : Json → Nat
  | .array items => depthItems items + 1
  | .object fields => depthFields fields + 1
  | _ => 0

def depthItems : List Json → Nat
  | [] => 0
  | item :: items => max (depth item) (depthItems items)

def depthFields : List (String × Json) → Nat
  | [] => 0
  | field :: fields => max (depth field.2) (depthFields fields)

end

end Json
end Hardening
