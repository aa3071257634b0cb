import Hardening.Proofs.EntryLines
import Hardening.Proofs.ReportPatch

/-!
# Instructions that go on over several lines

A backslash at the end of a line makes the next line part of the same instruction. The cleanup
commands are chained that way, and each chained command starts and ends properly. What is inside a
command is its own affair: the chain holds together exactly when every command does.
-/
namespace Hardening

namespace Document

/-- All lines of the text but the last end with a backslash. -/
def Continued (text : String) : Prop :=
  ∀ line ∈ (ofText text).lines.dropLast, Text.trails "\\" line = true

instance (text : String) : Decidable (Continued text) :=
  inferInstanceAs (Decidable (∀ line ∈ (ofText text).lines.dropLast, Text.trails "\\" line = true))

theorem continued_of_single {text : String} (single : '\n' ∉ text.toList) : Continued text := by
  rw [Continued, lines_ofText_of_single single]
  nofun

theorem continued_append_iff (front back : String) :
    Continued (front ++ "\n" ++ back) ↔
      (∀ line ∈ (ofText front).lines, Text.trails "\\" line = true) ∧ Continued back := by
  simp only [Continued, lines_ofText_append, List.dropLast_append_of_ne_nil (lines_ofText_ne_nil _),
    List.mem_append, or_imp, forall_and]

theorem trails_append_lineEnd (line : String) : Text.trails "\\" (line ++ Config.lineEnd) = true := by
  rw [Text.trails_iff]
  exact ⟨line ++ " ", by rw [String.append_assoc]; rfl⟩

theorem trails_lineStart_append (line : String) :
    Text.trails "\\" (Config.lineStart ++ line) = Text.trails "\\" line := by
  apply Bool.eq_iff_iff.mpr
  rw [Text.trails, Text.trails, List.isSuffixOf_iff_suffix, List.isSuffixOf_iff_suffix,
    String.toList_append]
  constructor
  · intro ends
    -- With an empty line the backslash would be the end of the start, which is a blank.
    rcases List.suffix_or_suffix_of_suffix ends (List.suffix_append _ line.toList) with
      inside | short
    · exact inside
    · rcases List.suffix_cons_iff.mp (show line.toList <:+ '\\' :: [] from short) with
        equal | empty
      · rw [equal]
        exact List.suffix_rfl
      · rw [List.suffix_nil.mp empty, List.append_nil] at ends
        exact absurd ends (by decide)
  · exact fun ends => ends.trans (List.suffix_append _ _)

theorem continued_lineStart_iff (command : String) :
    Continued (Config.lineStart ++ command) ↔ Continued command := by
  have start : '\n' ∉ Config.lineStart.toList := by decide
  obtain ⟨first, back, own, started⟩ := lines_ofText_prepend_single command start
  rw [Continued, Continued, own, started]
  cases back with
  | nil => simp
  | cons next back =>
    simp only [List.dropLast_cons_cons, List.forall_mem_cons, trails_lineStart_append]

theorem trails_lines_lineEnd_iff (front : String) :
    (∀ line ∈ (ofText (front ++ Config.lineEnd)).lines, Text.trails "\\" line = true) ↔
      Continued front := by
  have close : '\n' ∉ Config.lineEnd.toList := by decide
  obtain ⟨lines, last, own, ended⟩ := lines_ofText_append_single front close
  rw [Continued, own, ended, List.dropLast_concat, List.forall_mem_append, List.forall_mem_singleton]
  exact and_iff_left (trails_append_lineEnd last)

/-- A chain of commands behind a text holds together exactly when the text and each command do. -/
theorem continued_chained_iff (front : String) (commands : List String) :
    Continued (front ++ Config.chained commands) ↔
      Continued front ∧ ∀ command ∈ commands, Continued command := by
  induction commands generalizing front with
  | nil => simp
  | cons command commands ih =>
    rw [Config.append_chained_cons, continued_append_iff, ih, trails_lines_lineEnd_iff,
      continued_lineStart_iff, List.forall_mem_cons]

end Document

theorem lines_harden_patch (config : Config) (content : String) :
    (Document.ofText (harden config content).content).lines =
      ((harden config content).report.patch (Document.ofText content).lines).flatMap
        fun entry => (Document.ofText entry).lines := by
  have length := length_patch_harden config content
  have given := List.length_pos_iff.mpr (Document.lines_ofText_ne_nil content)
  have filled : (harden config content).report.patch (Document.ofText content).lines ≠ [] :=
    List.length_pos_iff.mp (by omega)
  rw [← joinLines_patch_harden, Document.lines_ofText_joinLines filled]

/-- The physical lines of the output are those of its entries. With an accepted configuration a
pinned line is one line and the user block two; an install and its cleanup commands are one
instruction exactly when each command is, as a command without line feeds is. -/
theorem harden_instructions (config : Config) (valid : config.check = .ok ()) (content : String) :
    let report := (harden config content).report
    let patched := report.patch (Document.ofText content).lines
    (Document.ofText (harden config content).content).lines =
      patched.flatMap (fun entry => (Document.ofText entry).lines) ∧
    (∀ change ∈ report.changes, change.rule = .pinBaseImage →
      (Document.ofText change.after).lines = [change.after]) ∧
    (∀ change ∈ report.changes, change.rule = .insertNonRootUser →
      (Document.ofText change.after).lines =
        [UserBlock.creation config, UserBlock.switch config]) ∧
    (∀ change ∈ report.changes, change.rule = .cleanPackageCache →
      change.after = change.before ++ config.cleanupSuffix ∧
      (Document.Continued change.after ↔
        ∀ command ∈ config.packageCleanup, Document.Continued command)) ∧
    ((∀ command ∈ config.packageCleanup, '\n' ∉ command.toList) →
      ∀ change ∈ report.changes, change.rule = .cleanPackageCache →
        Document.Continued change.after) := by
  intro report patched
  have accepted := (Config.check_eq_ok_iff config).mp valid
  have cleaned : ∀ change ∈ report.changes, change.rule = .cleanPackageCache →
      change.after = change.before ++ config.cleanupSuffix ∧
      (Document.Continued change.after ↔
        ∀ command ∈ config.packageCleanup, Document.Continued command) := by
    intro change reported cleanup
    -- The install is a line of the input, so it can only be broken by a command behind it.
    obtain ⟨single, shape⟩ := cleanup_of_mem_changes config content reported cleanup
    rw [shape, Config.cleanupSuffix_eq]
    exact ⟨rfl, (Document.continued_chained_iff change.before config.packageCleanup).trans
      (and_iff_right (Document.continued_of_single single))⟩
  refine ⟨lines_harden_patch config content, ?_, ?_, cleaned, ?_⟩
  · intro change reported pins
    obtain ⟨single, -⟩ := pinned_of_mem_changes accepted content reported pins
    exact Document.lines_ofText_of_single single
  · intro change reported inserts
    rw [(insertion_of_mem_changes config content reported inserts).2]
    exact lines_userBlock accepted
  · intro singles change reported cleanup
    rw [(cleaned change reported cleanup).2]
    exact fun command member => Document.continued_of_single (singles command member)

/-- The stock commands keep a cleaned install together, in a document that has all three changes. -/
theorem harden_instructions_stock :
    let content := "FROM node:latest\nRUN apt-get update\nRUN apt-get install -y curl"
    let cleaned : Change := ⟨.cleanPackageCache, 3, "RUN apt-get install -y curl",
      "RUN apt-get install -y curl \\\n    && apt-get clean \\\n    && rm -rf /var/lib/apt/lists/*"⟩
    Config.stock.check = .ok () ∧
    (∀ command ∈ Config.stock.packageCleanup, '\n' ∉ command.toList) ∧
    cleaned ∈ (harden .stock content).report.changes ∧ Document.Continued cleaned.after := by
  intro content cleaned
  have singles : ∀ command ∈ Config.stock.packageCleanup, '\n' ∉ command.toList := by
    decide +kernel
  have reported : cleaned ∈ (harden .stock content).report.changes := by decide +kernel
  obtain ⟨-, -, -, -, together⟩ := harden_instructions .stock Config.check_stock content
  exact ⟨Config.check_stock, singles, reported, together singles cleaned reported rfl⟩

/-- The check lets a command of two lines through, and the chain breaks inside it. -/
theorem cleanup_of_two_lines_breaks :
    let config : Config := { packageCleanup := ["apt-get clean\nrm -rf /tmp/cache"] }
    let content := "RUN apt-get update\nRUN apt-get install -y curl\nRUN adduser app"
    config.check = .ok () ∧
    (harden config content).report.changes =
      [⟨.cleanPackageCache, 2, "RUN apt-get install -y curl",
        "RUN apt-get install -y curl \\\n    && apt-get clean\nrm -rf /tmp/cache"⟩] ∧
    ¬ Document.Continued
      "RUN apt-get install -y curl \\\n    && apt-get clean\nrm -rf /tmp/cache" := by
  refine ⟨rfl, by decide +kernel, by decide +kernel⟩

end Hardening
