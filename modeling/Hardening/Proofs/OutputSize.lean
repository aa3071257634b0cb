import Hardening.Proofs.EntryLines

/-!
# How large an output is

Characters, bytes and line feeds add up over the parts of a text. For any such size a run adds the
cleanup suffix once for each reported cleanup, and the user block if it inserts it; pins count when
they change the size of their line, which they never do for line feeds.
-/
namespace Hardening

def cleanupCount (changes : List Change) : Nat :=
  changes.countP (·.rule = .cleanPackageCache)

theorem count_harden (config : Config) (content : String) :
    (harden config content).report.count .cleanPackageCache =
      cleanupCount (scanChanges config 1 (Document.ofText content).lines .initial) := by
  unfold Report.count cleanupCount
  cases declared : (Document.ofText content).lines.any Instruction.declaresUser with
  | true => rw [harden_of_declared config declared]
  | false =>
    rw [harden_of_undeclared config declared, List.countP_append]
    rfl

/-- The size of lines that each end with a line feed. -/
def Document.extent (size : String → Nat) : List String → Nat
  | [] => 0
  | line :: lines => size line + size "\n" + extent size lines

theorem extent_append (size : String → Nat) (front back : List String) :
    Document.extent size (front ++ back) =
      Document.extent size front + Document.extent size back := by
  induction front with
  | nil => simp [Document.extent]
  | cons line front ih =>
    simp only [List.cons_append, Document.extent, ih]
    omega

theorem extent_insert (size : String → Nat) (config : Config) (lines : List String) :
    Document.extent size (UserBlock.insert config lines) =
      Document.extent size lines + Document.extent size (UserBlock.lines config) := by
  have parts := congrArg (Document.extent size)
    (List.take_append_drop (UserBlock.insertionPoint lines) lines)
  rw [extent_append] at parts
  rw [UserBlock.insert, extent_append, extent_append]
  omega

section Size

variable {size : String → Nat} (additive : ∀ s t, size (s ++ t) = size s + size t)

include additive

theorem size_joinLines {lines : List String} (filled : lines ≠ []) :
    size (Document.joinLines lines) + size "\n" = Document.extent size lines := by
  induction lines with
  | nil => exact absurd rfl filled
  | cons line lines ih =>
    cases lines with
    | nil => simp [Document.joinLines_singleton, Document.extent]
    | cons next lines =>
      have rest := ih (List.cons_ne_nil _ _)
      rw [Document.joinLines_cons line (List.cons_ne_nil _ _), additive, additive]
      simp only [Document.extent] at rest ⊢
      omega

variable (config : Config)

/-- Each cleanup of a scan adds the suffix, and nothing else does, if pins keep the size. -/
theorem extent_scanTexts (number : Nat) {lines : List String} (state : ScanState)
    (neutral : ∀ line ∈ lines, ∀ parts, BaseImage.Floating.find? line = some parts →
      size (parts.pinned (config.tagFor parts.image)) = size line) :
    Document.extent size (scanTexts config lines state) = Document.extent size lines +
      cleanupCount (scanChanges config number lines state) * size config.cleanupSuffix := by
  induction lines generalizing number state with
  | nil => simp [Document.extent, cleanupCount]
  | cons line lines ih =>
    have later := ih (number + 1) (state.after line) fun other member =>
      neutral other (List.mem_cons_of_mem _ member)
    -- The line itself grows only if the cleanup rule applies to it.
    have first : size (emitted config line state) = size line +
        cleanupCount ((ruleFor line state).toList.map
          (⟨·, number, line, emitted config line state⟩)) * size config.cleanupSuffix := by
      cases applies : ruleFor line state with
      | none => simp [emitted_of_unchanged applies, cleanupCount]
      | some rule =>
        cases rule with
        | pinBaseImage =>
          obtain ⟨parts, found⟩ :=
            Option.isSome_iff_exists.mp ((ruleFor_eq_pinBaseImage_iff line state).mp applies)
          rw [emitted_of_pinBaseImage found, neutral line List.mem_cons_self parts found]
          simp [cleanupCount]
        | cleanPackageCache =>
          rw [emitted_of_cleanPackageCache applies, additive]
          simp [cleanupCount]
        | insertNonRootUser => exact absurd applies (ruleFor_ne_insertNonRootUser line state)
    rw [scanTexts_cons, scanChanges_cons, cleanupCount, List.countP_append, Nat.add_mul]
    simp only [Document.extent, cleanupCount] at later first ⊢
    omega

theorem size_harden (content : String)
    (neutral : ∀ line ∈ (Document.ofText content).lines, ∀ parts,
      BaseImage.Floating.find? line = some parts →
        size (parts.pinned (config.tagFor parts.image)) = size line) :
    size (harden config content).content = size content +
      (harden config content).report.count .cleanPackageCache * size config.cleanupSuffix +
      if (Document.ofText content).lines.any Instruction.declaresUser then 0
      else Document.extent size (UserBlock.lines config) := by
  have before := size_joinLines additive (Document.lines_ofText_ne_nil content)
  rw [show Document.joinLines (Document.ofText content).lines = content from
    Document.text_ofText content] at before
  -- Both texts lack the line feed behind their last line, so the extents differ as the sizes do.
  have scanned := extent_scanTexts additive config 1 .initial neutral
  rw [count_harden]
  cases declared : (Document.ofText content).lines.any Instruction.declaresUser with
  | true =>
    have after := size_joinLines additive (scanTexts_ne_nil config content)
    rw [harden_of_declared config declared]
    simp only [if_true]
    omega
  | false =>
    have after := size_joinLines additive (UserBlock.insert_ne_nil config
      (scanTexts config (Document.ofText content).lines .initial))
    rw [extent_insert] at after
    rw [harden_of_undeclared config declared]
    simp only [Bool.false_eq_true, if_false]
    omega

end Size

theorem extent_lineFeeds (lines : List String) :
    Document.extent Text.lineFeeds lines =
      (lines.flatMap fun line => (Document.ofText line).lines).length := by
  have feed : Text.lineFeeds "\n" = 1 := by decide
  induction lines with
  | nil => rfl
  | cons line lines ih =>
    rw [List.flatMap_cons, List.length_append, Document.length_lines_ofText, ← ih,
      Document.extent, feed]

theorem lineFeeds_pinned {config : Config} (accepted : config.Accepted) {line : String}
    (single : '\n' ∉ line.toList) {parts : BaseImage.Floating}
    (found : BaseImage.Floating.find? line = some parts) :
    Text.lineFeeds (parts.pinned (config.tagFor parts.image)) = Text.lineFeeds line := by
  have solid := (Config.tagFor_accepted accepted parts.image).chars.1
  rw [(Text.lineFeeds_eq_zero_iff line).mpr single, Text.lineFeeds_eq_zero_iff]
  rw [← (BaseImage.Floating.find?_sound found).2] at single
  exact BaseImage.Floating.single_pinned single solid

theorem length_scanLines {config : Config} (accepted : config.Accepted) (number : Nat)
    {lines : List String} (single : ∀ line ∈ lines, '\n' ∉ line.toList) (state : ScanState) :
    (scanLines config lines state).length = lines.length +
      cleanupCount (scanChanges config number lines state) * Text.lineFeeds config.cleanupSuffix := by
  have sized := extent_scanTexts Text.lineFeeds_append config number state
    fun line member parts found => lineFeeds_pinned accepted (single line member) found
  rwa [extent_lineFeeds, extent_lineFeeds, Document.flatMap_lines_of_single single] at sized

/-- Line feeds come from cleanup commands and from the block, which is two lines. -/
theorem lineFeeds_harden {config : Config} (accepted : config.Accepted) (content : String) :
    Text.lineFeeds (harden config content).content = Text.lineFeeds content +
      (harden config content).report.count .cleanPackageCache *
        Text.lineFeeds config.cleanupSuffix +
      if (Document.ofText content).lines.any Instruction.declaresUser then 0 else 2 := by
  have block : Document.extent Text.lineFeeds (UserBlock.lines config) = 2 := by
    rw [extent_lineFeeds, Document.flatMap_lines_of_single (single_userBlock accepted)]
    rfl
  have sized := size_harden Text.lineFeeds_append config content fun line member parts found =>
    lineFeeds_pinned accepted (Document.lineFeed_not_mem member) found
  rwa [block] at sized

end Hardening
