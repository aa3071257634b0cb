import Hardening.Proofs.EntryLines

/-!
# Documents that are put together

A line learns of the lines in front of it only whether the install block is open. So a document may
be cut wherever the block is closed, and its parts hardened on their own, as long as each of them
declares a user and gets no block. The changes of the second part count their lines from the cut.
-/
namespace Hardening

/-- The same change, to a document with more lines in front. -/
def Change.behind (front : Nat) (change : Change) : Change :=
  { change with line := front + change.line }

section Scan

variable (config : Config)

theorem emitted_eq_of_installOpen {state other : ScanState}
    (same : state.installOpen = other.installOpen) (line : String) :
    emitted config line state = emitted config line other := by
  rw [emitted, emitted, same]

theorem ruleFor_eq_of_installOpen {state other : ScanState}
    (same : state.installOpen = other.installOpen) (line : String) :
    ruleFor line state = ruleFor line other := by
  rw [ruleFor, ruleFor, same]

theorem ScanState.installOpen_after_eq {state other : ScanState}
    (same : state.installOpen = other.installOpen) (line : String) :
    (state.after line).installOpen = (other.after line).installOpen := by
  rw [after, after, same]

/-- What a scan emits depends on the lines in front only by the install block. -/
theorem scanTexts_eq_of_installOpen {state other : ScanState}
    (same : state.installOpen = other.installOpen) (lines : List String) :
    scanTexts config lines state = scanTexts config lines other := by
  -- A line opens and closes the block in both runs alike, so the states keep agreeing on it.
  induction lines generalizing state other with
  | nil => rfl
  | cons line lines ih =>
    rw [scanTexts_cons, scanTexts_cons, emitted_eq_of_installOpen config same,
      ih (ScanState.installOpen_after_eq same line)]

theorem scanChanges_eq_of_installOpen {state other : ScanState}
    (same : state.installOpen = other.installOpen) (number : Nat) (lines : List String) :
    scanChanges config number lines state = scanChanges config number lines other := by
  induction lines generalizing number state other with
  | nil => rw [scanChanges_nil, scanChanges_nil]
  | cons line lines ih =>
    rw [scanChanges_cons, scanChanges_cons, ruleFor_eq_of_installOpen same,
      emitted_eq_of_installOpen config same, ih (ScanState.installOpen_after_eq same line)]

theorem scanTexts_append (lines more : List String) (state : ScanState) :
    scanTexts config (lines ++ more) state =
      scanTexts config lines state ++ scanTexts config more (state.afterAll lines) := by
  induction lines generalizing state with
  | nil => rfl
  | cons line lines ih => simp [ih]

theorem scanChanges_behind (front number : Nat) (lines : List String) (state : ScanState) :
    scanChanges config (front + number) lines state =
      (scanChanges config number lines state).map (Change.behind front) := by
  induction lines generalizing number state with
  | nil => simp
  | cons line lines ih =>
    have first : (ruleFor line state).toList.map
          (Change.mk · (front + number) line (emitted config line state)) =
        ((ruleFor line state).toList.map
          (Change.mk · number line (emitted config line state))).map (Change.behind front) := by
      rw [List.map_map]
      rfl
    rw [scanChanges_cons, scanChanges_cons, List.map_append, first, Nat.add_assoc,
      ih (number + 1)]

/-- Where the install block is closed, a scan goes on as from the start. -/
theorem scanTexts_append_of_closed {lines : List String}
    (closed : (ScanState.initial.afterAll lines).installOpen = false) (more : List String) :
    scanTexts config (lines ++ more) .initial =
      scanTexts config lines .initial ++ scanTexts config more .initial := by
  -- It may know of a user by then, but what a line becomes does not depend on that.
  have restarts : (ScanState.initial.afterAll lines).installOpen =
      ScanState.initial.installOpen := closed
  rw [scanTexts_append, scanTexts_eq_of_installOpen config restarts]

theorem scanChanges_append_of_closed {lines : List String}
    (closed : (ScanState.initial.afterAll lines).installOpen = false) (more : List String) :
    scanChanges config 1 (lines ++ more) .initial = scanChanges config 1 lines .initial ++
      (scanChanges config 1 more .initial).map (Change.behind lines.length) := by
  have restarts : (ScanState.initial.afterAll lines).installOpen =
      ScanState.initial.installOpen := closed
  rw [scanChanges_append, scanChanges_eq_of_installOpen config restarts, Nat.add_comm 1,
    scanChanges_behind]

end Scan

/-- Two texts that each declare a user may be hardened on their own and put together, or put
together and hardened at once, if the scan of the first one leaves no install block open: the
outputs agree, and the changes are those of the first text and those of the second one behind its
lines. -/
theorem harden_concatenated (config : Config) {front back : String}
    (declared : ∃ line ∈ (Document.ofText front).lines, Instruction.declaresUser line = true)
    (declaredToo : ∃ line ∈ (Document.ofText back).lines, Instruction.declaresUser line = true)
    (closed : (scan config (Document.ofText front).lines .initial).2.installOpen = false) :
    let whole := harden config (front ++ "\n" ++ back)
    let first := harden config front
    let second := harden config back
    whole.content = first.content ++ "\n" ++ second.content ∧
    whole.report.changes = first.report.changes ++
      second.report.changes.map (Change.behind (Document.ofText front).lines.length) ∧
    whole.report.inputLines = first.report.inputLines + second.report.inputLines ∧
    whole.report.outputLines = first.report.outputLines + second.report.outputLines := by
  intro whole first second
  rw [← List.any_eq_true] at declared declaredToo
  rw [scan_state] at closed
  have lines := Document.lines_ofText_append front back
  have declaredWhole :
      (Document.ofText (front ++ "\n" ++ back)).lines.any Instruction.declaresUser = true := by
    rw [lines, List.any_append, declared, Bool.true_or]
  have run : whole = _ := harden_of_declared config declaredWhole
  have runFirst : first = _ := harden_of_declared config declared
  have runSecond : second = _ := harden_of_declared config declaredToo
  rw [run, runFirst, runSecond, lines, scanTexts_append_of_closed config closed,
    scanChanges_append_of_closed config closed, List.length_append,
    Document.joinLines_append (scanTexts_ne_nil config front) (scanTexts_ne_nil config back)]
  exact ⟨rfl, rfl, rfl, rfl⟩

/-- Two build stages: the cleanup keeps its line, the pin is reported three lines further down. -/
theorem harden_concatenated_stages :
    let front := "RUN apt-get update\nRUN apt-get install git\nRUN adduser app"
    let back := "FROM node:latest\nRUN addgroup web"
    (∃ line ∈ (Document.ofText front).lines, Instruction.declaresUser line = true) ∧
      (∃ line ∈ (Document.ofText back).lines, Instruction.declaresUser line = true) ∧
      (scan .stock (Document.ofText front).lines .initial).2.installOpen = false ∧
      (harden .stock (front ++ "\n" ++ back)).report.changes.map (fun change =>
        (change.rule, change.line)) = [(.cleanPackageCache, 2), (.pinBaseImage, 4)] := by
  intro front back
  have read : (Document.ofText front).lines =
      ["RUN apt-get update", "RUN apt-get install git", "RUN adduser app"] := by decide +kernel
  have declared : ∃ line ∈ (Document.ofText front).lines,
      Instruction.declaresUser line = true := by
    rw [read]
    decide +kernel
  have declaredToo : ∃ line ∈ (Document.ofText back).lines,
      Instruction.declaresUser line = true := by decide +kernel
  have closed : (scan .stock (Document.ofText front).lines .initial).2.installOpen = false := by
    rw [read]
    decide +kernel
  obtain ⟨-, changes, -, -⟩ := harden_concatenated .stock declared declaredToo closed
  refine ⟨declared, declaredToo, closed, ?_⟩
  rw [changes, read]
  decide +kernel

end Hardening
