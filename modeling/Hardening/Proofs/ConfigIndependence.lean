import Hardening.Proofs.HardenOutput

/-!
# What a configuration does not decide

No rule looks at a configured text, and no configured text brings a line into or out of a trigger. So
the input alone decides which lines are changed and where the block goes, and a configuration only
what is written there.
-/
namespace Hardening

/-- What was changed, and where; not what it was changed to. -/
def Change.decision (change : Change) : Rule × Nat × String :=
  (change.rule, change.line, change.before)

theorem decisions_scanChanges (config other : Config) (number : Nat) (lines : List String)
    (state : ScanState) :
    (scanChanges config number lines state).map Change.decision =
      (scanChanges other number lines state).map Change.decision := by
  induction lines generalizing number state with
  | nil => rw [scanChanges_nil, scanChanges_nil]
  | cons line lines ih =>
    have first : ((ruleFor line state).toList.map
          (⟨·, number, line, emitted config line state⟩)).map Change.decision =
        ((ruleFor line state).toList.map
          (⟨·, number, line, emitted other line state⟩)).map Change.decision := by
      cases ruleFor line state <;> rfl
    -- The state behind the line is the same in both scans, however the line was emitted.
    rw [scanChanges_cons, scanChanges_cons, List.map_append, List.map_append, first,
      ih (number + 1) (state.after line)]

section Harden

variable (config other : Config) (content : String)

theorem decisions_rewrites :
    (harden config content).report.rewrites.map Change.decision =
      (harden other content).report.rewrites.map Change.decision := by
  rw [rewrites_harden, rewrites_harden, decisions_scanChanges config other]

theorem decisions_insertions :
    (harden config content).report.insertions.map Change.decision =
      (harden other content).report.insertions.map Change.decision := by
  rw [insertions_harden, insertions_harden]
  split <;> rfl

theorem decisions_harden :
    (harden config content).report.changes.map Change.decision =
      (harden other content).report.changes.map Change.decision := by
  rw [changes_harden, changes_harden, List.map_append, List.map_append,
    decisions_rewrites config other, decisions_insertions config other]

theorem unnamed_of_unnamed {number : Nat}
    (unnamed : ∀ change ∈ (harden config content).report.rewrites, change.line ≠ number) :
    ∀ change ∈ (harden other content).report.rewrites, change.line ≠ number := by
  intro change member
  have decided : change.decision ∈ (harden config content).report.rewrites.map Change.decision := by
    rw [decisions_rewrites config other content]
    exact List.mem_map_of_mem member
  -- The other run has a change with the same decision, and so with the same line.
  obtain ⟨twin, named, same⟩ := List.mem_map.mp decided
  have line : twin.line = change.line := congrArg (·.2.1) same
  rw [← line]
  exact unnamed twin named

end Harden

/-- Two configurations make the same changes to a text: by the same rules, to the same lines, in the
same order, and with the block at the same place. Only the new texts depend on the configuration, and
a line that is not changed is put out as it is under both. -/
theorem harden_decisions (config other : Config) (content : String) :
    let lines := (Document.ofText content).lines
    let hardened := harden config content
    let another := harden other content
    hardened.report.changes.map Change.decision = another.report.changes.map Change.decision ∧
    hardened.report.userDeclared = another.report.userDeclared ∧
    hardened.report.userBlockAt = another.report.userBlockAt ∧
    hardened.report.inputLines = another.report.inputLines ∧
    hardened.report.outputLines = another.report.outputLines ∧
    (hardened.content = Document.joinLines (if hardened.report.userDeclared
      then scanTexts config lines .initial
      else UserBlock.insert config (scanTexts config lines .initial))) ∧
    (another.content = Document.joinLines (if another.report.userDeclared
      then scanTexts other lines .initial
      else UserBlock.insert other (scanTexts other lines .initial))) ∧
    ∀ i, (∀ change ∈ hardened.report.rewrites, change.line ≠ i + 1) →
      (scanTexts config lines .initial)[i]? = lines[i]? ∧
      (scanTexts other lines .initial)[i]? = lines[i]? := by
  intro lines hardened another
  have decisions := decisions_harden config other content
  have declared : hardened.report.userDeclared = another.report.userDeclared := by
    rw [userDeclared_harden, userDeclared_harden]
  have place : hardened.report.userBlockAt = another.report.userBlockAt := by
    rw [userBlockAt_harden, userBlockAt_harden]
  have read : hardened.report.inputLines = another.report.inputLines := by
    rw [inputLines_harden, inputLines_harden]
  have written : hardened.report.outputLines = another.report.outputLines := by
    rw [outputLines_harden, outputLines_harden, read, declared]
  refine ⟨decisions, declared, place, read, written, content_harden config content,
    content_harden other content, ?_⟩
  intro i unnamed
  exact ⟨getElem?_scanTexts_of_unnamed config content unnamed,
    getElem?_scanTexts_of_unnamed other content
      (unnamed_of_unnamed config other content unnamed)⟩

end Hardening
