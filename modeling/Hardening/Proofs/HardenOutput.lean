import Hardening.Proofs.ScanHistory

/-!
# What a hardening run puts out

A run either finds a declared user, and puts out the scanned lines, or adds the block to them. The
two equations below open `harden` for all later proofs; the report falls into the rewrites of the
scan and the insertion.
-/
namespace Hardening

section Scanned

variable (config : Config)

theorem insertionPoint_scanTexts (lines : List String) (state : ScanState) :
    UserBlock.insertionPoint (scanTexts config lines state) = UserBlock.insertionPoint lines := by
  unfold UserBlock.insertionPoint
  induction lines generalizing state with
  | nil => rfl
  | cons line lines ih =>
    rw [scanTexts_cons, List.findIdx_cons, List.findIdx_cons, copiesFiles_emitted, ih]

theorem rule_ne_insertNonRootUser {number : Nat} {lines : List String} {state : ScanState}
    {change : Change} (member : change ∈ scanChanges config number lines state) :
    change.rule ≠ .insertNonRootUser := by
  obtain ⟨i, line, rule, -, applies, rfl⟩ := (mem_scanChanges config _ _ _ _).mp member
  rintro rfl
  exact ruleFor_ne_insertNonRootUser _ _ applies

end Scanned

/-- A document with a declared user is put out as it was scanned. -/
theorem harden_of_declared (config : Config) {content : String}
    (declared : (Document.ofText content).lines.any Instruction.declaresUser = true) :
    harden config content =
      { content := Document.joinLines (scanTexts config (Document.ofText content).lines .initial)
        report := {
          changes := scanChanges config 1 (Document.ofText content).lines .initial
          userDeclared := true
          userBlockAt := none
          inputLines := (Document.ofText content).lines.length
          outputLines := (Document.ofText content).lines.length } } := by
  have seen : (scan config (Document.ofText content).lines .initial).2.userDeclared = true := by
    rw [scan_state, ScanState.userDeclared_afterAll, declared, Bool.or_true]
  simp [harden, seen, scanTexts, scanChanges, length_scan]

/-- A document without a declared user gets the block. -/
theorem harden_of_undeclared (config : Config) {content : String}
    (undeclared : (Document.ofText content).lines.any Instruction.declaresUser = false) :
    harden config content =
      { content := Document.joinLines
          (UserBlock.insert config (scanTexts config (Document.ofText content).lines .initial))
        report := {
          changes := scanChanges config 1 (Document.ofText content).lines .initial ++
            [⟨.insertNonRootUser, UserBlock.insertionPoint (Document.ofText content).lines + 1, "",
              Document.joinLines (UserBlock.lines config)⟩]
          userDeclared := false
          userBlockAt := some (UserBlock.insertionPoint (Document.ofText content).lines)
          inputLines := (Document.ofText content).lines.length
          outputLines := (Document.ofText content).lines.length + 2 } } := by
  have unseen : (scan config (Document.ofText content).lines .initial).2.userDeclared = false := by
    rw [scan_state, ScanState.userDeclared_afterAll, undeclared]
    rfl
  -- The program searches the scanned lines; the report is stated by the input lines.
  have place := insertionPoint_scanTexts config (Document.ofText content).lines .initial
  unfold scanTexts at place
  simp [harden, unseen, scanTexts, scanChanges, insertionChange, UserBlock.length_insert,
    length_scan, place]

namespace Report

/-- The changes that replace a line. -/
def rewrites (report : Report) : List Change :=
  report.changes.filter (·.rule ≠ .insertNonRootUser)

/-- The changes that add an entry. -/
def insertions (report : Report) : List Change :=
  report.changes.filter (·.rule = .insertNonRootUser)

end Report

section Harden

variable (config : Config) (content : String)

theorem userDeclared_harden : (harden config content).report.userDeclared =
    (Document.ofText content).lines.any Instruction.declaresUser := by
  cases declared : (Document.ofText content).lines.any Instruction.declaresUser with
  | true => rw [harden_of_declared config declared]
  | false => rw [harden_of_undeclared config declared]

theorem userBlockAt_harden : (harden config content).report.userBlockAt =
    if (Document.ofText content).lines.any Instruction.declaresUser then none
    else some (UserBlock.insertionPoint (Document.ofText content).lines) := by
  cases declared : (Document.ofText content).lines.any Instruction.declaresUser with
  | true =>
    rw [harden_of_declared config declared]
    rfl
  | false =>
    rw [harden_of_undeclared config declared]
    rfl

theorem inputLines_harden :
    (harden config content).report.inputLines = (Document.ofText content).lines.length := by
  cases declared : (Document.ofText content).lines.any Instruction.declaresUser with
  | true => rw [harden_of_declared config declared]
  | false => rw [harden_of_undeclared config declared]

theorem outputLines_harden :
    (harden config content).report.outputLines = (harden config content).report.inputLines +
      if (harden config content).report.userDeclared then 0 else 2 := by
  cases declared : (Document.ofText content).lines.any Instruction.declaresUser with
  | true =>
    rw [harden_of_declared config declared]
    rfl
  | false =>
    rw [harden_of_undeclared config declared]
    rfl

theorem rewrites_harden : (harden config content).report.rewrites =
    scanChanges config 1 (Document.ofText content).lines .initial := by
  have kept : (scanChanges config 1 (Document.ofText content).lines .initial).filter
      (·.rule ≠ .insertNonRootUser) =
        scanChanges config 1 (Document.ofText content).lines .initial := by
    apply List.filter_eq_self.mpr
    intro change member
    simpa using rule_ne_insertNonRootUser config member
  cases declared : (Document.ofText content).lines.any Instruction.declaresUser with
  | true => rw [harden_of_declared config declared, Report.rewrites, kept]
  | false =>
    rw [harden_of_undeclared config declared, Report.rewrites, List.filter_append, kept]
    simp

theorem insertions_harden : (harden config content).report.insertions =
    if (Document.ofText content).lines.any Instruction.declaresUser then [] else
      [⟨.insertNonRootUser, UserBlock.insertionPoint (Document.ofText content).lines + 1, "",
        Document.joinLines (UserBlock.lines config)⟩] := by
  have none : (scanChanges config 1 (Document.ofText content).lines .initial).filter
      (·.rule = .insertNonRootUser) = [] := by
    apply List.filter_eq_nil_iff.mpr
    intro change member
    simpa using rule_ne_insertNonRootUser config member
  cases declared : (Document.ofText content).lines.any Instruction.declaresUser with
  | true =>
    rw [harden_of_declared config declared, Report.insertions, none]
    rfl
  | false =>
    rw [harden_of_undeclared config declared, Report.insertions, List.filter_append, none]
    rfl

theorem changes_harden : (harden config content).report.changes =
    (harden config content).report.rewrites ++ (harden config content).report.insertions := by
  rw [rewrites_harden, insertions_harden]
  cases declared : (Document.ofText content).lines.any Instruction.declaresUser with
  | true => simp [harden_of_declared config declared]
  | false => simp [harden_of_undeclared config declared]

/-- A reported change that is no insertion is that of a line to which a rule applies. -/
theorem rewrite_of_mem_changes {change : Change}
    (reported : change ∈ (harden config content).report.changes)
    (rewrite : change.rule ≠ .insertNonRootUser) :
    ∃ i line, (Document.ofText content).lines[i]? = some line ∧
      ruleFor line (ScanState.initial.afterAll ((Document.ofText content).lines.take i)) =
        some change.rule ∧
      change = ⟨change.rule, i + 1, line,
        emitted config line (ScanState.initial.afterAll ((Document.ofText content).lines.take i))⟩ := by
  have scanned : change ∈ (harden config content).report.rewrites :=
    List.mem_filter.mpr ⟨reported, by simpa using rewrite⟩
  rw [rewrites_harden, mem_scanChanges] at scanned
  obtain ⟨i, line, rule, stands, applies, rfl⟩ := scanned
  exact ⟨i, line, stands, applies, by simp [Nat.add_comm]⟩

theorem insertion_of_mem_changes {change : Change}
    (reported : change ∈ (harden config content).report.changes)
    (inserts : change.rule = .insertNonRootUser) :
    (Document.ofText content).lines.any Instruction.declaresUser = false ∧
      change = ⟨.insertNonRootUser, UserBlock.insertionPoint (Document.ofText content).lines + 1, "",
        Document.joinLines (UserBlock.lines config)⟩ := by
  have inserted : change ∈ (harden config content).report.insertions :=
    List.mem_filter.mpr ⟨reported, by simpa using inserts⟩
  rw [insertions_harden] at inserted
  split at inserted
  · cases inserted
  next undeclared => exact ⟨Bool.eq_false_iff.mpr undeclared, List.mem_singleton.mp inserted⟩

/-- An input line that no rewrite names is emitted as it is. -/
theorem getElem?_scanTexts_of_unnamed {i : Nat}
    (unnamed : ∀ change ∈ (harden config content).report.rewrites, change.line ≠ i + 1) :
    (scanTexts config (Document.ofText content).lines .initial)[i]? =
      (Document.ofText content).lines[i]? := by
  rw [getElem?_scanTexts]
  cases stands : (Document.ofText content).lines[i]? with
  | none => rfl
  | some line =>
    cases applies : ruleFor line
        (ScanState.initial.afterAll ((Document.ofText content).lines.take i)) with
    | none => exact congrArg some (emitted_of_unchanged applies config)
    | some rule =>
      -- A rule that applies is reported, against the assumption.
      have named := (mem_scanChanges config 1 _ .initial _).mpr
        ⟨i, line, rule, stands, applies, rfl⟩
      rw [← rewrites_harden] at named
      exact absurd (Nat.add_comm 1 i) (unnamed _ named)

theorem content_harden :
    (harden config content).content = Document.joinLines
      (if (harden config content).report.userDeclared then
        scanTexts config (Document.ofText content).lines .initial
      else UserBlock.insert config (scanTexts config (Document.ofText content).lines .initial)) := by
  cases declared : (Document.ofText content).lines.any Instruction.declaresUser with
  | true => simp [harden_of_declared config declared]
  | false => simp [harden_of_undeclared config declared]

end Harden

end Hardening
