import Hardening.Json.Number
import Hardening.Json.Quoted

/-!
# Writing JSON

Two layouts: on one line without blanks, and indented with every item and field on a line of its
own. Empty arrays and objects are written without a line break in both.
-/
namespace Hardening.Json

/-- Starts a new line at a depth of indentation, two spaces for each level. -/
def newLine (level : Nat) : List Char :=
  '\n' :: List.replicate (2 * level) ' '

mutual

/-- The indented layout of a value that stands at the given level. -/
def indented (level : Nat) : Json → List Char
  | .null | .unreadable => "null".toList
  | .bool value => (if value then "true" else "false").toList
  | .number value => value.write
  | .string value => Quoted.write value.toList
  | .array [] => ['[', ']']
  | .array (item :: items) =>
    '[' :: newLine (level + 1) ++ indented (level + 1) item ++ indentedItems (level + 1) items ++
      newLine level ++ [']']
  | .object [] => ['{', '}']
  | .object ((name, value) :: fields) =>
    '{' :: newLine (level + 1) ++ Quoted.write name.toList ++ [':', ' '] ++
      indented (level + 1) value ++ indentedFields (level + 1) fields ++ newLine level ++ ['}']

/-- The items after the first one. -/
def indentedItems (level : Nat) : List Json → List Char
  | [] => []
  | item :: items => ',' :: newLine level ++ indented level item ++ indentedItems level items

/-- The fields after the first one. -/
def indentedFields (level : Nat) : List (String × Json) → List Char
  | [] => []
  | (name, value) :: fields =>
    ',' :: newLine level ++ Quoted.write name.toList ++ [':', ' '] ++ indented level value ++
      indentedFields level fields

end

/-- The text of a value with line breaks and indentation. -/
def pretty (value : Json) : String :=
  String.ofList (indented 0 value)

mutual

/-- The layout of a value on one line. -/
def flat : Json → List Char
  | .null | .unreadable => "null".toList
  | .bool value => (if value then "true" else "false").toList
  | .number value => value.write
  | .string value => Quoted.write value.toList
  | .array [] => ['[', ']']
  | .array (item :: items) => '[' :: flat item ++ flatItems items ++ [']']
  | .object [] => ['{', '}']
  | .object ((name, value) :: fields) =>
    '{' :: Quoted.write name.toList ++ ':' :: flat value ++ flatFields fields ++ ['}']

def flatItems : List Json → List Char
  | [] => []
  | item :: items => ',' :: flat item ++ flatItems items

def flatFields : List (String × Json) → List Char
  | [] => []
  | (name, value) :: fields =>
    ',' :: Quoted.write name.toList ++ ':' :: flat value ++ flatFields fields

end

/-- The text of a value on one line. -/
def compact (value : Json) : String :=
  String.ofList (flat value)

end Hardening.Json
