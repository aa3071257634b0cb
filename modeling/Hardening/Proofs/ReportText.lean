import Hardening.Proofs.InstantText
import Hardening.Proofs.JsonLayout
import Hardening.Report.File
import Hardening.Time.Clock

/-!
# Report files there and back

The text of a report file holds the whole file: reading it gives the same file again.
-/
namespace Hardening

namespace Json

theorem word?_nat {n : Nat} (fits : n < UInt64.size) : (nat n).word? = some n := by
  simp [nat, word?, Number.natural?, fits]

theorem optionalWord?_option {value : Option Nat} (fits : ∀ n ∈ value, n < UInt64.size) :
    optionalWord? (option nat value) = some value := by
  cases value with
  | none => rfl
  | some n =>
    have word := word?_nat (fits n rfl)
    simp only [option, optionalWord?, nat] at word ⊢
    rw [word]
    rfl

end Json

namespace Change

theorem plain_toJson {change : Change} (fits : change.line < UInt64.size) :
    change.toJson.Plain := by
  simp [toJson, Json.Plain, Json.PlainFields, Rule.toJson, Json.plain_nat fits]

theorem depth_toJson (change : Change) : change.toJson.depth = 1 := by
  simp [toJson, Json.depth, Json.depthFields, Rule.toJson, Json.nat]

theorem ofJson?_toJson (isNothing : Json → Bool) {change : Change}
    (fits : change.line < UInt64.size) : ofJson? isNothing change.toJson = some change := by
  have line := Json.word?_nat fits
  have rule : Rule.ofJson? isNothing change.rule.toJson = some change.rule :=
    Rule.ofName?_name change.rule
  simp [toJson, ofJson?, Json.require?, Json.field?, ofParts?, line, rule, Json.string?]

end Change

namespace Report

/-- The numbers in a report have 64 bits. -/
structure Fits (report : Report) : Prop where
  changes : ∀ change ∈ report.changes, change.line < UInt64.size
  userBlockAt : ∀ index ∈ report.userBlockAt, index < UInt64.size
  inputLines : report.inputLines < UInt64.size
  outputLines : report.outputLines < UInt64.size

variable {report : Report} (fits : report.Fits)

include fits

theorem plain_toFields : Json.PlainFields report.toFields := by
  have changes : (Json.array (report.changes.map Change.toJson)).Plain := by
    refine (Json.plainItems_iff _).mpr fun item member => ?_
    obtain ⟨change, listed, rfl⟩ := List.mem_map.mp member
    exact Change.plain_toJson (fits.changes change listed)
  have place : (Json.option .nat report.userBlockAt).Plain := by
    cases at_ : report.userBlockAt with
    | none => trivial
    | some index => exact Json.plain_nat (fits.userBlockAt index at_)
  exact ⟨changes, trivial, place, Json.plain_nat fits.inputLines, Json.plain_nat fits.outputLines,
    trivial⟩

theorem changes_toJson (isNothing : Json → Bool) :
    (report.changes.map Change.toJson).mapM (Change.ofJson? isNothing) = some report.changes := by
  have each := fits.changes
  generalize report.changes = changes at each
  induction changes with
  | nil => rfl
  | cons change changes ih =>
    have first := Change.ofJson?_toJson isNothing (each change List.mem_cons_self)
    have others := ih fun other member => each other (List.mem_cons_of_mem _ member)
    rw [List.map_cons, List.mapM_cons, first, others]
    rfl

theorem ofParts?_toFields (isNothing : Json → Bool) :
    ofParts? isNothing (.array (report.changes.map Change.toJson)) (.bool report.userDeclared)
      (.option .nat report.userBlockAt) (.nat report.inputLines) (.nat report.outputLines) =
        some report := by
  simp [ofParts?, Json.array?, changes_toJson fits isNothing, Json.bool?,
    Json.optionalWord?_option fits.userBlockAt, Json.word?_nat fits.inputLines,
    Json.word?_nat fits.outputLines]

omit fits

theorem depth_toFields (report : Report) : Json.depthFields report.toFields ≤ 2 := by
  have changes : Json.depthItems (report.changes.map Change.toJson) ≤ 1 := by
    refine Json.depthItems_le fun item member => ?_
    obtain ⟨change, -, rfl⟩ := List.mem_map.mp member
    exact Nat.le_of_eq (Change.depth_toJson change)
  have place : (Json.option .nat report.userBlockAt).depth = 0 := by
    cases report.userBlockAt <;> simp [Json.option, Json.nat, Json.depth]
  simp only [toFields, Json.depthFields, Json.depth, Json.nat, place]
  omega

end Report

namespace ReportFile

/-- The numbers in a report file have 64 bits, and its time can be read from some text. -/
structure Fits (file : ReportFile) : Prop where
  report : file.report.Fits
  readable : ∃ text, Time.Instant.ofText? text = some file.generatedAt

theorem plain_toJson {file : ReportFile} (fits : file.Fits) : file.toJson.Plain :=
  ⟨trivial, trivial, trivial, trivial, Report.plain_toFields fits.report⟩

theorem depth_toJson (file : ReportFile) : file.toJson.depth ≤ depthLimit := by
  have report := Report.depth_toFields file.report
  simp only [toJson, List.cons_append, List.nil_append, Json.depth, Json.depthFields, depthLimit]
  omega

theorem ofFields?_toFields {file : ReportFile} (fits : file.Fits) :
    ofFields? ([
      ("report_id", .string file.id),
      ("generated_at", .string file.generatedAt.text),
      ("input_sha256", .string file.inputDigest),
      ("output_sha256", .string file.outputDigest)] ++ file.report.toFields) = some file := by
  obtain ⟨text, read⟩ := fits.readable
  have time := Time.Instant.ofText?_text _ (Time.Instant.yearInRange_of_ofText? read)
  have report := Report.ofParts?_toFields fits.report Json.isNullOrEmpty
  simp [ofFields?, Report.toFields, Report.ofFields?, Json.require?, Json.field?, Json.string?, time,
    report]

theorem ofJson?_toJson {file : ReportFile} (fits : file.Fits) :
    ofJson? file.toJson = some file := by
  have readable := Json.readable_of_plain _ (plain_toJson fits)
  have shallow := depth_toJson file
  rw [toJson] at readable shallow ⊢
  simp only [ofJson?, readable, shallow]
  exact ofFields?_toFields fits

/-- A report file is read back from its text, so writing it again gives the same text. -/
theorem ofText?_self {file : ReportFile} (fits : file.Fits) :
    ofText? file.text = some file ∧ (ofText? file.text).map ReportFile.text = some file.text := by
  have read : ofText? file.text = some file := by
    rw [ofText?, text, Json.ofText?_pretty (plain_toJson fits)]
    exact ofJson?_toJson fits
  exact ⟨read, by rw [read]; rfl⟩

/-- A file with escaped characters in its texts and a leap second for its time. -/
def leapFile : ReportFile where
  id := "\x00\"\\\u2028"
  generatedAt := { Time.Instant.ofClock 0 with second := 60, second_le := Nat.le_refl 60 }
  inputDigest := ""
  outputDigest := "\t"
  report := {
    changes := [⟨.insertNonRootUser, 1, "", "USER app\nCOPY . ."⟩]
    userBlockAt := some 0
    inputLines := 18446744073709551615 }

theorem ofText?_self_leapFile :
    leapFile.Fits ∧ ofText? leapFile.text = some leapFile := by
  have fits : leapFile.Fits := by
    constructor
    case report => constructor <;> decide
    case readable => exact ⟨"1970-01-01t01:00:60+01:00", by rfl⟩
  exact ⟨fits, (ofText?_self fits).1⟩

end ReportFile

end Hardening
