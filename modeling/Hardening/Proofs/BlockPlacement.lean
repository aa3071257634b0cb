import Hardening.Proofs.HardenOutput

/-!
# Where the user block goes

The scan looks for declared users in the input; the place of the block is searched for among the
scanned lines. Rewriting keeps the beginnings of lines, so the place is that of the first input line
that copies files.
-/
namespace Hardening

/-- The report says whether some line of the input declares a user. If one does, the scanned lines
are the output; if none does, the two lines of the block stand in front of the first input line that
copies files, or at the end. -/
theorem harden_userBlock (config : Config) (content : String) :
    let lines := (Document.ofText content).lines
    let scanned := scanTexts config lines .initial
    let hardened := harden config content
    let place := lines.findIdx (Text.leads "COPY")
    scanned.length = lines.length ∧
    (hardened.report.userDeclared = true ↔
      ∃ line ∈ lines, Text.leads "RUN groupadd" line = true ∨
        Text.leads "RUN addgroup" line = true ∨ Text.leads "RUN adduser" line = true) ∧
    (hardened.report.userDeclared = true →
      hardened.content = Document.joinLines scanned ∧
      hardened.report.userBlockAt = none ∧
      ∀ change ∈ hardened.report.changes, change.rule ≠ .insertNonRootUser) ∧
    (hardened.report.userDeclared = false →
      hardened.content = Document.joinLines (scanned.take place ++
        [UserBlock.creation config, UserBlock.switch config] ++ scanned.drop place) ∧
      hardened.report.userBlockAt = some place ∧
      hardened.report.changes.filter (·.rule = .insertNonRootUser) =
        [⟨.insertNonRootUser, place + 1, "",
          Document.joinLines [UserBlock.creation config, UserBlock.switch config]⟩]) := by
  intro lines scanned hardened place
  have declares (line : String) : Instruction.declaresUser line = true ↔
      Text.leads "RUN groupadd" line = true ∨ Text.leads "RUN addgroup" line = true ∨
        Text.leads "RUN adduser" line = true := by
    simp [Instruction.declaresUser_iff, Instruction.userCreationLeads]
  refine ⟨length_scanTexts config lines .initial, ?_⟩
  simp only [← declares, ← List.any_eq_true]
  cases declared : lines.any Instruction.declaresUser with
  | true =>
    have run : hardened = _ := harden_of_declared config declared
    rw [run]
    refine ⟨by simp, fun _ => ⟨rfl, rfl, ?_⟩, nofun⟩
    exact fun change reported => rule_ne_insertNonRootUser config reported
  | false =>
    have run : hardened = _ := harden_of_undeclared config declared
    -- No rule adds or takes away the word that copies files, so the input tells the place as well.
    have point : UserBlock.insertionPoint scanned = place :=
      insertionPoint_scanTexts config lines .initial
    rw [run]
    refine ⟨by simp, nofun, fun _ => ⟨?_, rfl, ?_⟩⟩
    · simp only [UserBlock.insert]
      rw [point]
      rfl
    · have inserted := insertions_harden config content
      rw [harden_of_undeclared config declared, declared] at inserted
      exact inserted

end Hardening
