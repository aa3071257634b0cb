import Hardening.Proofs.HardenOutput
import Hardening.Proofs.PhysicalLines
import Hardening.Proofs.Pinning

/-!
# The physical lines of one entry

What an accepted configuration puts into a document by a tag or by the names of the user block has
no line feed. Only the cleanup commands make several lines of one, a new one for each command.
-/
namespace Hardening

theorem Text.lineFeed_not_mem_of_solid {s : String} (solid : ∀ c ∈ s.toList, isBlank c = false) :
    '\n' ∉ s.toList := by
  intro member
  have blank : isBlank '\n' = true := by decide
  exact Bool.noConfusion (blank.symm.trans (solid _ member))

theorem BaseImage.Floating.single_pinned {parts : Floating} {tag : String}
    (single : '\n' ∉ parts.line.toList) (solid : ∀ c ∈ tag.toList, Text.isBlank c = false) :
    '\n' ∉ (parts.pinned tag).toList := by
  have tagged := Text.lineFeed_not_mem_of_solid solid
  rw [toList_line] at single
  rw [toList_pinned]
  simp_all

namespace Config

/-- The given commands, each on a continued line. -/
def chained (commands : List String) : String :=
  String.join (commands.map (continuation ++ ·))

theorem cleanupSuffix_eq (config : Config) :
    config.cleanupSuffix = chained config.packageCleanup := rfl

@[simp] theorem chained_nil : chained [] = "" := rfl

/-- The part of a continuation in front of its line feed. -/
def lineEnd : String := " \\"

/-- The part of a continuation behind its line feed. -/
def lineStart : String := "    && "

/-- A command ends the line in front of it and starts one of its own. -/
theorem append_chained_cons (front command : String) (commands : List String) :
    front ++ chained (command :: commands) =
      front ++ lineEnd ++ "\n" ++ (lineStart ++ command ++ chained commands) := by
  have cut : continuation = lineEnd ++ "\n" ++ lineStart := rfl
  simp only [chained, List.map_cons, String.join_cons, cut, String.append_assoc]

theorem lineFeeds_chained_cons (command : String) (commands : List String) :
    0 < Text.lineFeeds (chained (command :: commands)) := by
  have opened := append_chained_cons "" command commands
  rw [String.empty_append] at opened
  have feed : Text.lineFeeds "\n" = 1 := by decide
  rw [opened, Text.lineFeeds_append, Text.lineFeeds_append, feed]
  omega

theorem lineFeeds_cleanupSuffix_eq_zero_iff (config : Config) :
    Text.lineFeeds config.cleanupSuffix = 0 ↔ config.packageCleanup = [] := by
  rw [cleanupSuffix_eq]
  cases config.packageCleanup with
  | nil => simp [Text.lineFeeds]
  | cons command commands =>
    have feeds := lineFeeds_chained_cons command commands
    simp only [reduceCtorEq, iff_false]
    omega

end Config

section Rewrites

variable (config : Config) (content : String) {change : Change}
  (reported : change ∈ (harden config content).report.changes)

include reported

theorem cleanup_of_mem_changes (cleans : change.rule = .cleanPackageCache) :
    '\n' ∉ change.before.toList ∧ change.after = change.before ++ config.cleanupSuffix := by
  obtain ⟨i, line, stands, applies, shape⟩ :=
    rewrite_of_mem_changes config content reported (by simp [cleans])
  rw [cleans] at applies
  rw [shape]
  exact ⟨Document.lineFeed_not_mem (List.mem_of_getElem? stands),
    emitted_of_cleanPackageCache applies config⟩

theorem floating_of_mem_changes (pins : change.rule = .pinBaseImage) :
    change.before ∈ (Document.ofText content).lines ∧
      (BaseImage.Floating.find? change.before).isSome = true := by
  obtain ⟨i, line, stands, applies, shape⟩ :=
    rewrite_of_mem_changes config content reported (by simp [pins])
  rw [pins, ruleFor_eq_pinBaseImage_iff] at applies
  rw [shape]
  exact ⟨List.mem_of_getElem? stands, applies⟩

end Rewrites

section Accepted

variable {config : Config} (accepted : config.Accepted)

include accepted

/-- What is emitted is one line, unless cleanup commands are put behind it. -/
theorem single_emitted {line : String} {state : ScanState} (single : '\n' ∉ line.toList)
    (kept : ruleFor line state = some .cleanPackageCache → config.packageCleanup = []) :
    '\n' ∉ (emitted config line state).toList := by
  cases applies : ruleFor line state with
  | none =>
    rw [emitted_of_unchanged applies]
    exact single
  | some rule =>
    cases rule with
    | pinBaseImage =>
      obtain ⟨parts, found⟩ :=
        Option.isSome_iff_exists.mp ((ruleFor_eq_pinBaseImage_iff line state).mp applies)
      obtain ⟨-, written⟩ := BaseImage.Floating.find?_sound found
      rw [emitted_of_pinBaseImage found]
      rw [← written] at single
      exact BaseImage.Floating.single_pinned single
        (Config.tagFor_accepted accepted parts.image).chars.1
    | cleanPackageCache =>
      rw [emitted_of_cleanPackageCache applies, Config.cleanupSuffix_eq, kept applies]
      simpa using single
    | insertNonRootUser => exact absurd applies (ruleFor_ne_insertNonRootUser line state)

theorem pinned_of_mem_changes (content : String) {change : Change}
    (reported : change ∈ (harden config content).report.changes)
    (pins : change.rule = .pinBaseImage) :
    '\n' ∉ change.after.toList ∧ BaseImage.Floating.find? change.after = none := by
  obtain ⟨i, line, stands, applies, shape⟩ :=
    rewrite_of_mem_changes config content reported (by simp [pins])
  have single := Document.lineFeed_not_mem (List.mem_of_getElem? stands)
  rw [shape]
  refine ⟨single_emitted accepted single ?_, find?_emitted accepted line _⟩
  intro cleanup
  simp [pins, applies] at cleanup

theorem single_userBlock : ∀ line ∈ UserBlock.lines config, '\n' ∉ line.toList := by
  have user := Text.lineFeed_not_mem_of_solid ((Text.isWord_iff _).mp accepted.user_word).2
  have group := Text.lineFeed_not_mem_of_solid ((Text.isWord_iff _).mp accepted.group_word).2
  have creation : '\n' ∉ (UserBlock.creation config).toList := by
    -- Names are words, and the fixed parts between them have no line feed either.
    unfold UserBlock.creation
    refine Text.single_append (Text.single_append (Text.single_append (Text.single_append
      (Text.single_append ?_ group) ?_) group) ?_) user
    all_goals decide +kernel
  have switch : '\n' ∉ (UserBlock.switch config).toList := by
    unfold UserBlock.switch
    refine Text.single_append ?_ user
    decide +kernel
  intro line member
  rcases List.mem_cons.mp member with rfl | second
  · exact creation
  · rwa [List.mem_singleton.mp second]

theorem lines_userBlock :
    (Document.ofText (Document.joinLines (UserBlock.lines config))).lines =
      [UserBlock.creation config, UserBlock.switch config] := by
  have filled : UserBlock.lines config ≠ [] := List.cons_ne_nil _ _
  exact Document.lines_ofText_joinLines_of_single filled (single_userBlock accepted)

end Accepted

/-- The physical lines of the entries that a scan emits. -/
def scanLines (config : Config) (lines : List String) (state : ScanState) : List String :=
  (scanTexts config lines state).flatMap fun entry => (Document.ofText entry).lines

theorem scanLines_cons (config : Config) (line : String) (lines : List String)
    (state : ScanState) : scanLines config (line :: lines) state =
      (Document.ofText (emitted config line state)).lines ++
        scanLines config lines (state.after line) := by
  simp [scanLines]

theorem scanTexts_ne_nil (config : Config) (content : String) :
    scanTexts config (Document.ofText content).lines .initial ≠ [] := by
  simpa [← List.length_pos_iff] using Document.lines_ofText_ne_nil content

theorem UserBlock.insert_ne_nil (config : Config) (lines : List String) :
    insert config lines ≠ [] := by
  simp [← List.length_pos_iff, length_insert]

theorem lines_harden_of_declared (config : Config) {content : String}
    (declared : (Document.ofText content).lines.any Instruction.declaresUser = true) :
    (Document.ofText (harden config content).content).lines =
      scanLines config (Document.ofText content).lines .initial := by
  rw [harden_of_declared config declared,
    Document.lines_ofText_joinLines (scanTexts_ne_nil config content), scanLines]

theorem lines_harden_of_undeclared {config : Config} (accepted : config.Accepted) {content : String}
    (undeclared : (Document.ofText content).lines.any Instruction.declaresUser = false) {place : Nat}
    (point : UserBlock.insertionPoint (Document.ofText content).lines = place) :
    (Document.ofText (harden config content).content).lines =
      scanLines config ((Document.ofText content).lines.take place) .initial ++
        (UserBlock.lines config ++ scanLines config ((Document.ofText content).lines.drop place)
          (ScanState.initial.afterAll ((Document.ofText content).lines.take place))) := by
  -- The place is found in the emitted texts, which copy files where the input does.
  rw [harden_of_undeclared config undeclared,
    Document.lines_ofText_joinLines (UserBlock.insert_ne_nil config _),
    UserBlock.insert, insertionPoint_scanTexts, point, take_scanTexts, drop_scanTexts,
    List.flatMap_append, List.flatMap_append,
    Document.flatMap_lines_of_single (single_userBlock accepted), List.append_assoc]
  rfl

end Hardening
