import Hardening.Proofs.HardenOutput

/-!
# Which installs are cleaned up after

The open install block is a fact about the lines so far: the last one about packages refreshes their
index. The cleanup commands follow exactly the installs that find it open.
-/
namespace Hardening

/-- The line installs packages, and the last line about packages before it refreshes the index. -/
def CleanupDue (earlier : List String) (line : String) : Prop :=
  Text.leads "RUN apt-get install" line = true ∧
    ∃ refresh, lastPackageLine? earlier = some refresh ∧
      Text.leads "RUN apt-get update" refresh = true

theorem ruleFor_eq_cleanPackageCache_iff_due (earlier : List String) (line : String) :
    ruleFor line (ScanState.initial.afterAll earlier) = some .cleanPackageCache ↔
      CleanupDue earlier line := by
  rw [ruleFor_eq_cleanPackageCache_iff, ScanState.installOpen_afterAll]
  cases last : lastPackageLine? earlier with
  | none => simp [CleanupDue, last, ScanState.initial]
  | some refresh =>
    have opens : Instruction.refreshesIndex refresh = Text.leads "RUN apt-get update" refresh := rfl
    have installs : Instruction.installsPackages line = Text.leads "RUN apt-get install" line := rfl
    simp [CleanupDue, last, opens, installs, and_comm]

/-- A `RUN` line that needs no cleanup is not changed at all: only `FROM` lines are pinned. -/
theorem emitted_run {earlier : List String} {line : String} (run : Text.leads "RUN" line = true)
    (kept : ¬ CleanupDue earlier line) (config : Config) :
    emitted config line (ScanState.initial.afterAll earlier) = line := by
  apply emitted_of_unchanged
  cases due : ruleFor line (ScanState.initial.afterAll earlier) with
  | none => rfl
  | some rule =>
    cases rule with
    | pinBaseImage =>
      -- A pinned line begins with `FROM`, and neither beginning is one of the other.
      obtain ⟨parts, found⟩ :=
        Option.isSome_iff_exists.mp ((ruleFor_eq_pinBaseImage_iff line _).mp due)
      rcases Text.leads_comparable run (BaseImage.Floating.leads_of_find? found) with h | h <;>
        revert h <;> decide
    | cleanPackageCache => exact absurd ((ruleFor_eq_cleanPackageCache_iff_due _ _).mp due) kept
    | insertNonRootUser => exact absurd due (ruleFor_ne_insertNonRootUser _ _)

/-- The reported cleanups are those of the lines that are due for one. Such a line is emitted with
the commands behind it, once, and every other `RUN` line as it is. -/
theorem harden_cleanup (config : Config) (content : String) :
    let lines := (Document.ofText content).lines
    let scanned := scanTexts config lines .initial
    let hardened := harden config content
    hardened.content = Document.joinLines
      (if hardened.report.userDeclared then scanned else UserBlock.insert config scanned) ∧
    scanned.length = lines.length ∧
    (∀ change : Change,
      change ∈ hardened.report.changes ∧ change.rule = .cleanPackageCache ↔
        ∃ i line, lines[i]? = some line ∧ CleanupDue (lines.take i) line ∧
          change = ⟨.cleanPackageCache, i + 1, line, line ++ config.cleanupSuffix⟩) ∧
    ∀ i line, lines[i]? = some line →
      (CleanupDue (lines.take i) line → scanned[i]? = some (line ++ config.cleanupSuffix)) ∧
      (¬ CleanupDue (lines.take i) line → Text.leads "RUN" line = true →
        scanned[i]? = some line) := by
  intro lines scanned hardened
  refine ⟨content_harden config content, length_scanTexts config lines .initial, ?_, ?_⟩
  -- The insertion is no cleanup, so the reported cleanups are what the scan has noted for lines.
  · intro change
    constructor
    · rintro ⟨reported, cleanup⟩
      have rewrite : change ∈ hardened.report.rewrites :=
        List.mem_filter.mpr ⟨reported, by simp [cleanup]⟩
      rw [rewrites_harden, mem_scanChanges] at rewrite
      obtain ⟨i, line, rule, stands, applies, rfl⟩ := rewrite
      cases cleanup
      refine ⟨i, line, stands, (ruleFor_eq_cleanPackageCache_iff_due _ _).mp applies, ?_⟩
      rw [emitted_of_cleanPackageCache applies, Nat.add_comm]
    · rintro ⟨i, line, stands, due, rfl⟩
      have applies := (ruleFor_eq_cleanPackageCache_iff_due _ _).mpr due
      have rewrite : (⟨.cleanPackageCache, i + 1, line, line ++ config.cleanupSuffix⟩ : Change) ∈
          hardened.report.rewrites := by
        rw [rewrites_harden, mem_scanChanges]
        refine ⟨i, line, .cleanPackageCache, stands, applies, ?_⟩
        rw [emitted_of_cleanPackageCache applies, Nat.add_comm]
      exact ⟨(List.mem_filter.mp rewrite).1, rfl⟩
  · intro i line stands
    have emits : scanned[i]? =
        some (emitted config line (ScanState.initial.afterAll (lines.take i))) := by
      rw [getElem?_scanTexts, stands]
      rfl
    constructor
    · intro due
      rw [emits, emitted_of_cleanPackageCache ((ruleFor_eq_cleanPackageCache_iff_due _ _).mpr due)]
    · intro kept run
      rw [emits, emitted_run run kept]

end Hardening
