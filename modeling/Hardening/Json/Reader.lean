import Hardening.Json.Number
import Hardening.Json.Quoted

/-!
# Reading JSON

A text is read if it is one value of the JSON grammar with blanks around it. Strings with an
unpaired surrogate and numbers out of range are read as unreadable values, and so is an object with
such a string for a field name.
-/
namespace Hardening.Json

/-- The blanks that JSON knows. -/
def isGap (c : Char) : Bool :=
  c = ' ' || c = '\t' || c = '\n' || c = '\r'

def skipGap (text : List Char) : List Char :=
  text.dropWhile isGap

def ofNumber (written : Number) : Json :=
  if written.inRange then .number written else .unreadable

def ofUnits (units : List Nat) : Json :=
  match Quoted.ofUnits? units with
  | some text => .string (String.ofList text)
  | none => .unreadable

/-- A field, if its name denotes a text. -/
def ofField? (field : List Nat × Json) : Option (String × Json) :=
  (Quoted.ofUnits? field.1).map (String.ofList ·, field.2)

/-- An object, if all its field names denote texts. -/
def ofFields (fields : List (List Nat × Json)) : Json :=
  match fields.mapM ofField? with
  | some fields => .object fields
  | none => .unreadable

mutual

/-- Reads one value. The fuel bounds the nesting and the number of parts read; the length of the
text is enough, since every part takes a character. -/
def readValue : Nat → List Char → Option (Json × List Char)
  | 0, _ => none
  | fuel + 1, text =>
    match skipGap text with
    | 'n' :: 'u' :: 'l' :: 'l' :: rest => some (.null, rest)
    | 't' :: 'r' :: 'u' :: 'e' :: rest => some (.bool true, rest)
    | 'f' :: 'a' :: 'l' :: 's' :: 'e' :: rest => some (.bool false, rest)
    | '"' :: rest => (Quoted.readUnits rest).map fun (units, rest) => (ofUnits units, rest)
    | '[' :: rest =>
      match skipGap rest with
      | ']' :: rest => some (.array [], rest)
      | rest => (readItems fuel rest).map fun (items, rest) => (.array items, rest)
    | '{' :: rest =>
      match skipGap rest with
      | '}' :: rest => some (.object [], rest)
      | rest => (readFields fuel rest).map fun (fields, rest) => (ofFields fields, rest)
    -- Whatever else a value may begin with, it is a number or nothing.
    | rest => (Number.read rest).map fun (written, rest) => (ofNumber written, rest)

/-- Reads the items of an array up to its end. -/
def readItems : Nat → List Char → Option (List Json × List Char)
  | 0, _ => none
  | fuel + 1, text => do
    let (item, rest) ← readValue fuel text
    match skipGap rest with
    | ',' :: rest =>
      let (items, rest) ← readItems fuel rest
      return (item :: items, rest)
    | ']' :: rest => return ([item], rest)
    | _ => none

/-- Reads the fields of an object up to its end. -/
def readFields : Nat → List Char → Option (List (List Nat × Json) × List Char)
  | 0, _ => none
  | fuel + 1, text =>
    match skipGap text with
    | '"' :: rest => do
      let (name, rest) ← Quoted.readUnits rest
      match skipGap rest with
      | ':' :: rest =>
        let (value, rest) ← readValue fuel rest
        match skipGap rest with
        | ',' :: rest =>
          let (fields, rest) ← readFields fuel rest
          return ((name, value) :: fields, rest)
        | '}' :: rest => return ([(name, value)], rest)
        | _ => none
      | _ => none
    | _ => none

end

/-- The value that a whole text writes. -/
def ofText? (text : String) : Option Json :=
  match readValue (2 * text.length + 2) text.toList with
  | some (value, rest) => if skipGap rest = [] then some value else none
  | none => none

end Hardening.Json
