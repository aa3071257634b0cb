import Hardening.Proofs.OutputSize

/-!
# Which runs leave a text as it is

A run without changes puts out its input. The converse needs that no reported change is without
effect: pins and insertions always have one, and a cleanup has one as soon as a command is
configured. Nor do effects cancel out, since what changes a line keeps the lines in their places and
what adds lines is never taken back.
-/
namespace Hardening

section Texts

variable {config : Config} (accepted : config.Accepted) (content : String)

/-- A text in which only empty cleanups are due is scanned as it is. -/
theorem scanTexts_of_idle
    (idle : ∀ change ∈ (harden config content).report.changes,
      change.rule = .cleanPackageCache ∧ config.packageCleanup = []) :
    scanTexts config (Document.ofText content).lines .initial = (Document.ofText content).lines := by
  apply List.ext_getElem?
  intro i
  rw [getElem?_scanTexts]
  cases stands : (Document.ofText content).lines[i]? with
  | none => rfl
  | some line =>
    rw [Option.map_some, Option.some.injEq]
    cases applies : ruleFor line
        (ScanState.initial.afterAll ((Document.ofText content).lines.take i)) with
    | none => exact emitted_of_unchanged applies config
    | some rule =>
      have reported := (mem_scanChanges config 1 _ .initial _).mpr
        ⟨i, line, rule, stands, applies, rfl⟩
      rw [← rewrites_harden] at reported
      obtain ⟨cleanup, silent⟩ := idle _ (List.mem_filter.mp reported).1
      cases cleanup
      rw [emitted_of_cleanPackageCache applies, Config.cleanupSuffix_eq, silent]
      exact String.append_empty

theorem content_harden_of_idle
    (idle : ∀ change ∈ (harden config content).report.changes,
      change.rule = .cleanPackageCache ∧ config.packageCleanup = []) :
    (harden config content).content = content := by
  cases declared : (Document.ofText content).lines.any Instruction.declaresUser with
  | true =>
    rw [harden_of_declared config declared]
    exact (congrArg Document.joinLines (scanTexts_of_idle content idle)).trans
      (Document.text_ofText content)
  | false =>
    rw [harden_of_undeclared config declared] at idle
    exact absurd (idle _ (List.mem_append_right _ (List.mem_singleton_self _))).1 nofun

include accepted

theorem silent_of_lineFeeds_eq
    (same : Text.lineFeeds (harden config content).content = Text.lineFeeds content) :
    (Document.ofText content).lines.any Instruction.declaresUser = true ∧
      ((harden config content).report.count .cleanPackageCache = 0 ∨ config.packageCleanup = []) := by
  -- The block and each command bring line feeds, and nothing takes one away.
  have sized := lineFeeds_harden accepted content
  rw [same] at sized
  cases declared : (Document.ofText content).lines.any Instruction.declaresUser with
  | false =>
    simp only [declared, Bool.false_eq_true, if_false] at sized
    omega
  | true =>
    simp only [declared, if_true] at sized
    have added : (harden config content).report.count .cleanPackageCache *
        Text.lineFeeds config.cleanupSuffix = 0 := by omega
    rw [Nat.mul_eq_zero, Config.lineFeeds_cleanupSuffix_eq_zero_iff] at added
    exact ⟨rfl, added⟩

/-- The lines of an output with as many lines as its input stand where they stood. -/
theorem scanTexts_of_content_eq (same : (harden config content).content = content) :
    scanTexts config (Document.ofText content).lines .initial = (Document.ofText content).lines := by
  obtain ⟨declared, silent⟩ :=
    silent_of_lineFeeds_eq accepted content (congrArg Text.lineFeeds same)
  have single : ∀ text ∈ scanTexts config (Document.ofText content).lines .initial,
      '\n' ∉ text.toList := by
    intro text member
    obtain ⟨i, found⟩ := List.mem_iff_getElem?.mp member
    rw [getElem?_scanTexts] at found
    obtain ⟨line, stands, rfl⟩ := Option.map_eq_some_iff.mp found
    apply single_emitted accepted (Document.lineFeed_not_mem (List.mem_of_getElem? stands))
    intro applies
    rcases silent with uncleaned | unconfigured
    · -- A line that is due for a cleanup is counted in the report.
      have counted := (mem_scanChanges config 1 _ .initial _).mpr
        ⟨i, line, _, stands, applies, rfl⟩
      rw [count_harden, cleanupCount, List.countP_eq_zero] at uncleaned
      exact absurd (uncleaned _ counted) (by simp)
    · exact unconfigured
  rw [harden_of_declared config declared] at same
  have read := Document.lines_ofText_joinLines_of_single (scanTexts_ne_nil config content) single
  rw [show Document.joinLines _ = content from same] at read
  exact read.symm

/-- The output is the input exactly when every reported change is a cleanup with no command. -/
theorem content_harden_eq_iff :
    (harden config content).content = content ↔
      ∀ change ∈ (harden config content).report.changes,
        change.rule = .cleanPackageCache ∧ config.packageCleanup = [] := by
  refine ⟨?_, content_harden_of_idle content⟩
  intro same change reported
  obtain ⟨declared, silent⟩ :=
    silent_of_lineFeeds_eq accepted content (congrArg Text.lineFeeds same)
  cases rule : change.rule with
  | insertNonRootUser =>
    have undeclared := (insertion_of_mem_changes config content reported rule).1
    rw [declared] at undeclared
    cases undeclared
  | cleanPackageCache =>
    refine ⟨rfl, silent.resolve_left ?_⟩
    rw [Report.count, List.countP_eq_zero]
    exact fun uncleaned => uncleaned change reported (by simpa using rule)
  | pinBaseImage =>
    obtain ⟨i, line, stands, applies, -⟩ :=
      rewrite_of_mem_changes config content reported (by simp [rule])
    have kept := congrArg (·[i]?) (scanTexts_of_content_eq accepted content same)
    simp only [getElem?_scanTexts, stands, Option.map_some, Option.some.injEq] at kept
    -- The emitted line does not float, so it is not the line that was pinned.
    have settled := find?_emitted accepted line
      (ScanState.initial.afterAll ((Document.ofText content).lines.take i))
    rw [rule, ruleFor_eq_pinBaseImage_iff] at applies
    rw [kept] at settled
    rw [settled] at applies
    cases applies

/-- The one change that leaves its line as it was is a cleanup for which no command is configured. -/
theorem before_eq_after_iff {change : Change}
    (reported : change ∈ (harden config content).report.changes) :
    change.before = change.after ↔
      change.rule = .cleanPackageCache ∧ config.packageCleanup = [] := by
  cases rule : change.rule with
  | insertNonRootUser =>
    simp only [reduceCtorEq, false_and, iff_false]
    rw [(insertion_of_mem_changes config content reported rule).2]
    intro equal
    dsimp only at equal
    -- The empty text is one line and the block is two.
    have block := lines_userBlock accepted
    rw [← equal, Document.lines_ofText_of_single (by decide)] at block
    exact absurd (congrArg List.length block) (by simp)
  | pinBaseImage =>
    simp only [reduceCtorEq, false_and, iff_false]
    intro equal
    obtain ⟨-, floating⟩ := floating_of_mem_changes config content reported rule
    obtain ⟨-, settled⟩ := pinned_of_mem_changes accepted content reported rule
    rw [equal, settled] at floating
    cases floating
  | cleanPackageCache =>
    obtain ⟨-, shape⟩ := cleanup_of_mem_changes config content reported rule
    simp only [true_and]
    rw [shape]
    constructor
    · intro equal
      have counted := congrArg Text.lineFeeds equal
      rw [Text.lineFeeds_append] at counted
      rw [← Config.lineFeeds_cleanupSuffix_eq_zero_iff]
      omega
    · intro unconfigured
      rw [Config.cleanupSuffix_eq, unconfigured]
      exact String.append_empty.symm

end Texts

/-- A run without changes puts out its input, and each change except a cleanup without commands
alters its line. So the output is the input exactly when no other change is reported, and if there
are cleanup commands the report says whether they are the same. -/
theorem harden_unchanged (config : Config) (valid : config.check = .ok ()) (content : String) :
    let hardened := harden config content
    (hardened.report.isUnchanged = true → hardened.content = content) ∧
    (∀ change ∈ hardened.report.changes, change.before = change.after ↔
      change.rule = .cleanPackageCache ∧ config.packageCleanup = []) ∧
    (hardened.content = content ↔ ∀ change ∈ hardened.report.changes,
      change.rule = .cleanPackageCache ∧ config.packageCleanup = []) ∧
    (config.packageCleanup ≠ [] →
      (hardened.report.isUnchanged = true ↔ hardened.content = content)) := by
  intro hardened
  have accepted := (Config.check_eq_ok_iff config).mp valid
  have exact_iff : hardened.content = content ↔ _ := content_harden_eq_iff accepted content
  have silent (unchanged : hardened.report.isUnchanged = true) : hardened.content = content := by
    rw [exact_iff, List.isEmpty_iff.mp (show hardened.report.changes.isEmpty = true from unchanged)]
    nofun
  refine ⟨silent, fun change => before_eq_after_iff accepted content, exact_iff, ?_⟩
  intro configured
  refine ⟨silent, ?_⟩
  intro same
  apply List.isEmpty_iff.mpr
  rw [List.eq_nil_iff_forall_not_mem]
  exact fun change reported => configured (exact_iff.mp same change reported).2

/-- A document that needs nothing comes out as it went in; one with a floating base does not. -/
theorem harden_unchanged_stock :
    Config.stock.check = .ok () ∧ Config.stock.packageCleanup ≠ [] ∧
    (harden .stock "FROM node:18\nRUN adduser app").content = "FROM node:18\nRUN adduser app" ∧
    (harden .stock "FROM node:latest\nRUN adduser app").content ≠
      "FROM node:latest\nRUN adduser app" := by
  have configured : Config.stock.packageCleanup ≠ [] := List.cons_ne_nil _ _
  obtain ⟨silent, -⟩ := harden_unchanged .stock Config.check_stock "FROM node:18\nRUN adduser app"
  obtain ⟨-, -, -, told⟩ := harden_unchanged .stock Config.check_stock
    "FROM node:latest\nRUN adduser app"
  refine ⟨Config.check_stock, configured, silent (by decide +kernel), ?_⟩
  rw [Ne, ← told configured]
  decide +kernel

/-- Without cleanup commands a reported cleanup has no effect: the flag is down on equal texts. -/
theorem unchanged_content_of_reported_cleanup :
    let config : Config := { packageCleanup := [] }
    let content := "RUN apt-get update\nRUN apt-get install -y curl\nRUN adduser app"
    config.check = .ok () ∧ (harden config content).content = content ∧
      (harden config content).report.isUnchanged = false := by
  refine ⟨rfl, by decide +kernel, by decide +kernel⟩

end Hardening
