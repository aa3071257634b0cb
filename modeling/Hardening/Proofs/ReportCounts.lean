import Hardening.Proofs.OutputSize

/-!
# What a report counts

The rewrites of a report come in the order of their lines, the insertion comes last, and the numbers
of lines agree with the text that is put out: it has the lines of the input, two for the block and
those that the cleanup commands begin.
-/
namespace Hardening

theorem pairwise_scanChanges (config : Config) (number : Nat) (lines : List String)
    (state : ScanState) :
    (scanChanges config number lines state).Pairwise (·.line < ·.line) := by
  induction lines generalizing number state with
  | nil =>
    rw [scanChanges_nil]
    exact List.Pairwise.nil
  | cons line lines ih =>
    rw [scanChanges_cons, List.pairwise_append]
    refine ⟨?_, ih (number + 1) (state.after line), ?_⟩
    · -- One rule at most changes the line.
      cases ruleFor line state with
      | none => exact List.Pairwise.nil
      | some rule => exact List.pairwise_singleton _ _
    · -- The lines behind have higher numbers.
      intro change first later behind
      have starts := (line_of_mem_scanChanges config behind).1
      obtain ⟨rule, -, rfl⟩ := List.mem_map.mp first
      exact starts

section Harden

variable (config : Config) (content : String)

theorem pairwise_rewrites :
    (harden config content).report.rewrites.Pairwise (·.line < ·.line) := by
  rw [rewrites_harden]
  exact pairwise_scanChanges config 1 _ .initial

theorem line_of_mem_rewrites {change : Change}
    (member : change ∈ (harden config content).report.rewrites) :
    1 ≤ change.line ∧ change.line ≤ (harden config content).report.inputLines := by
  rw [rewrites_harden] at member
  obtain ⟨starts, within⟩ := line_of_mem_scanChanges config member
  rw [inputLines_harden]
  exact ⟨starts, by omega⟩

theorem insertions_of_undeclared
    (undeclared : (harden config content).report.userDeclared = false) :
    ∃ change place, (harden config content).report.insertions = [change] ∧ change.before = "" ∧
      (harden config content).report.userBlockAt = some place ∧ change.line = place + 1 := by
  rw [userDeclared_harden] at undeclared
  have inserted := insertions_harden config content
  rw [undeclared, if_neg Bool.false_ne_true] at inserted
  refine ⟨_, _, inserted, rfl, ?_, rfl⟩
  rw [userBlockAt_harden, undeclared, if_neg Bool.false_ne_true]

theorem inserts_iff :
    (∃ change ∈ (harden config content).report.changes, change.rule = .insertNonRootUser) ↔
      (harden config content).report.userDeclared = false := by
  constructor
  · rintro ⟨change, reported, inserts⟩
    rw [userDeclared_harden]
    exact (insertion_of_mem_changes config content reported inserts).1
  · intro undeclared
    obtain ⟨change, -, only, -⟩ := insertions_of_undeclared config content undeclared
    have member : change ∈ (harden config content).report.insertions := only ▸ List.mem_cons_self
    obtain ⟨reported, inserts⟩ := List.mem_filter.mp member
    exact ⟨change, reported, of_decide_eq_true inserts⟩

end Harden

theorem length_lines_harden {config : Config} (accepted : config.Accepted) (content : String) :
    (Document.ofText (harden config content).content).lines.length =
      (harden config content).report.outputLines +
        (harden config content).report.count .cleanPackageCache *
          Text.lineFeeds config.cleanupSuffix := by
  -- A text has one line more than line feeds, so the ends of input and output cancel out.
  rw [outputLines_harden, inputLines_harden, userDeclared_harden, Document.length_lines_ofText,
    Document.length_lines_ofText, lineFeeds_harden accepted]
  omega

/-- The rewrites come first, each for a line of its own and in the order of the lines; the insertion
comes last, and is there exactly if no user is declared. The numbers of lines are those of the input,
of the input and the block, and of the text that is put out less the lines that cleanup commands
begin. -/
theorem harden_counts (config : Config) (valid : config.check = .ok ()) (content : String) :
    let lines := (Document.ofText content).lines
    let hardened := harden config content
    let report := hardened.report
    let physical := (Document.ofText hardened.content).lines
    report.changes = report.rewrites ++ report.insertions ∧
    report.rewrites.Pairwise (·.line < ·.line) ∧
    (∀ change ∈ report.rewrites, 1 ≤ change.line ∧ change.line ≤ report.inputLines) ∧
    ((∃ change ∈ report.changes, change.rule = .insertNonRootUser) ↔
      report.userDeclared = false) ∧
    (report.userDeclared = false → ∃ change place, report.insertions = [change] ∧
      change.before = "" ∧ report.userBlockAt = some place ∧ change.line = place + 1) ∧
    report.inputLines = lines.length ∧
    report.outputLines = report.inputLines + (if report.userDeclared then 0 else 2) ∧
    physical.length = report.outputLines +
      report.count .cleanPackageCache * Text.lineFeeds config.cleanupSuffix ∧
    lines.length ≤ physical.length := by
  intro lines hardened report physical
  have accepted := (Config.check_eq_ok_iff config).mp valid
  have read : report.inputLines = lines.length := inputLines_harden config content
  have written := outputLines_harden config content
  have length := length_lines_harden accepted content
  have longer : lines.length ≤ physical.length := by
    rw [← read, length, written, Nat.add_assoc]
    exact Nat.le_add_right _ _
  exact ⟨changes_harden config content, pairwise_rewrites config content,
    fun change => line_of_mem_rewrites config content, inserts_iff config content,
    insertions_of_undeclared config content, read, written, length, longer⟩

/-- Four lines with a pin, a cleanup of two stock commands and the block become eight. -/
theorem harden_counts_stock :
    let content := "FROM node:latest\nRUN apt-get update\nRUN apt-get install curl\nCOPY . ."
    Config.stock.check = .ok () ∧ (Document.ofText content).lines.length = 4 ∧
      (Document.ofText (harden .stock content).content).lines.length = 8 := by
  intro content
  obtain ⟨-, -, -, -, -, read, written, length, -⟩ :=
    harden_counts .stock Config.check_stock content
  have lines : (Document.ofText content).lines.length = 4 := by decide +kernel
  have feeds : Text.lineFeeds Config.stock.cleanupSuffix = 2 := by decide +kernel
  have counts : (harden .stock content).report.userDeclared = false ∧
      (harden .stock content).report.count .cleanPackageCache = 1 := by decide +kernel
  rw [written, read, lines, feeds, counts.1, counts.2] at length
  refine ⟨Config.check_stock, lines, ?_⟩
  rw [length]
  rfl

end Hardening
