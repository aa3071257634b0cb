import Hardening.Digest
import Hardening.Harden
import Hardening.Json.Printer
import Hardening.Json.Reader
import Hardening.Report.Json
import Hardening.Report.Stamp
import Hardening.Time.Reader
import Hardening.Time.Written

/-!
# Report files

A report is filed with a fresh identifier, the time of its making, and the digests of the texts
before and after. The fields of the report follow those of the file in one object. A file is read
strictly: every value in it has to denote something, the unknown ones included.
-/
namespace Hardening

/-- A report as it is filed. -/
structure ReportFile where
  id : String
  generatedAt : Time.Instant
  inputDigest : String
  outputDigest : String
  report : Report
  deriving Repr, DecidableEq

namespace ReportFile

/-- The file for a report on two texts. -/
def make (stamp : Stamp) (before after : String) (report : Report) : ReportFile where
  id := stamp.id
  generatedAt := stamp.time
  inputDigest := Digest.ofText before
  outputDigest := Digest.ofText after
  report := report

def toJson (file : ReportFile) : Json :=
  .object <| [
    ("report_id", .string file.id),
    ("generated_at", .string file.generatedAt.text),
    ("input_sha256", .string file.inputDigest),
    ("output_sha256", .string file.outputDigest)] ++ file.report.toFields

/-- The text of the file. -/
def text (file : ReportFile) : String :=
  file.toJson.pretty

/-- How deep the values of a file may be nested. -/
def depthLimit : Nat := 127

def ofFields? (fields : List (String × Json)) : Option ReportFile := do
  return {
    id := ← (← Json.require? fields "report_id").string?
    generatedAt := ← Time.Instant.ofText? (← (← Json.require? fields "generated_at").string?)
    inputDigest := ← (← Json.require? fields "input_sha256").string?
    outputDigest := ← (← Json.require? fields "output_sha256").string?
    report := ← Report.ofFields? Json.isNullOrEmpty fields }

def ofJson? (value : Json) : Option ReportFile :=
  match value with
  | .object fields =>
    if value.readable && value.depth ≤ depthLimit then ofFields? fields else none
  | _ => none

def ofText? (text : String) : Option ReportFile :=
  (Json.ofText? text).bind ofJson?

end ReportFile
end Hardening
