import Hardening.Json.Value
import Hardening.Report

/-!
# Reports as JSON

A report is written as an object. It is read from an object with its fields in any order, unknown
fields left aside, or from an array with the fields by position; the same holds for changes. Only
the place of the user block may be missing.
-/
namespace Hardening

namespace Rule

/-- Reads a rule from its name, or from an object with the name as its only field and nothing as
that field's value. `isNothing` says which values count as nothing. -/
def ofJson? (isNothing : Json → Bool) : Json → Option Rule
  | .string name => ofName? name
  | .object [(name, value)] => if isNothing value then ofName? name else none
  | _ => none

def toJson (rule : Rule) : Json :=
  .string rule.name

end Rule

namespace Json

def isNull : Json → Bool
  | .null => true
  | _ => false

/-- An object without fields counts as nothing too. -/
def isNullOrEmpty : Json → Bool
  | .null | .object [] => true
  | _ => false

/-- A natural number or `null`. -/
def optionalWord? : Json → Option (Option Nat)
  | .null => some none
  | value => value.word?.map some

end Json

namespace Change

def toJson (change : Change) : Json :=
  .object [
    ("rule", change.rule.toJson),
    ("line", .nat change.line),
    ("before", .string change.before),
    ("after", .string change.after)]

def ofParts? (isNothing : Json → Bool) (rule line before after : Json) : Option Change := do
  return {
    rule := ← Rule.ofJson? isNothing rule
    line := ← line.word?
    before := ← before.string?
    after := ← after.string? }

def ofJson? (isNothing : Json → Bool) : Json → Option Change
  | .array [rule, line, before, after] => ofParts? isNothing rule line before after
  | .object fields => do
    ofParts? isNothing (← Json.require? fields "rule") (← Json.require? fields "line")
      (← Json.require? fields "before") (← Json.require? fields "after")
  | _ => none

end Change

namespace Report

/-- The fields of a report, for an object that may have others in front. -/
def toFields (report : Report) : List (String × Json) := [
  ("changes", .array (report.changes.map Change.toJson)),
  ("non_root_user_declared", .bool report.userDeclared),
  ("user_block_inserted_at", .option .nat report.userBlockAt),
  ("input_lines", .nat report.inputLines),
  ("output_lines", .nat report.outputLines)]

def toJson (report : Report) : Json :=
  .object report.toFields

def ofParts? (isNothing : Json → Bool) (changes declared at_ input output : Json) :
    Option Report := do
  return {
    changes := ← (← changes.array?).mapM (Change.ofJson? isNothing)
    userDeclared := ← declared.bool?
    userBlockAt := ← at_.optionalWord?
    inputLines := ← input.word?
    outputLines := ← output.word? }

/-- Reads a report from fields of an object. -/
def ofFields? (isNothing : Json → Bool) (fields : List (String × Json)) : Option Report := do
  ofParts? isNothing (← Json.require? fields "changes")
    (← Json.require? fields "non_root_user_declared")
    ((← Json.field? fields "user_block_inserted_at").getD .null)
    (← Json.require? fields "input_lines") (← Json.require? fields "output_lines")

/-- Reads a report that stands on its own. -/
def ofJson? : Json → Option Report
  | .array [changes, declared, at_, input, output] =>
    ofParts? Json.isNull changes declared at_ input output
  | .object fields => ofFields? Json.isNull fields
  | _ => none

end Report
end Hardening
