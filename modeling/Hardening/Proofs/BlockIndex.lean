import Hardening.Proofs.EmittedTriggers

/-!
# The index of the user block

The report counts entries: a cleaned install is one entry, however many lines it has. In the text of
the output the block stands further down, by the line feeds of all cleanups in front of it.
-/
namespace Hardening

/-- The number of cleanups reported for the lines up to the given one. -/
def Report.cleanupsUpTo (report : Report) (line : Nat) : Nat :=
  report.changes.countP fun change => change.rule = .cleanPackageCache ∧ change.line ≤ line

section Harden

variable (config : Config) (content : String)

/-- The cleanups up to a line are those of a scan that stops behind it. -/
theorem cleanupsUpTo_harden (n : Nat) : (harden config content).report.cleanupsUpTo n =
    cleanupCount (scanChanges config 1 ((Document.ofText content).lines.take n) .initial) := by
  have inserted : (harden config content).report.insertions.countP (fun change =>
      change.rule = .cleanPackageCache ∧ change.line ≤ n) = 0 := by
    rw [List.countP_eq_zero]
    intro change member
    have inserts := (List.mem_filter.mp member).2
    simp_all
  have split := scanChanges_append config 1 ((Document.ofText content).lines.take n)
    ((Document.ofText content).lines.drop n) .initial
  rw [List.take_append_drop] at split
  -- All changes of the first `n` lines count, and none of the later lines.
  have early : (scanChanges config 1 ((Document.ofText content).lines.take n) .initial).countP
      (fun change => change.rule = .cleanPackageCache ∧ change.line ≤ n) =
        cleanupCount (scanChanges config 1 ((Document.ofText content).lines.take n) .initial) := by
    apply List.countP_congr
    intro change member
    have within := (line_of_mem_scanChanges config member).2
    have ends : change.line ≤ n := by
      rw [List.length_take] at within
      omega
    simp [ends]
  have late : (scanChanges config (1 + ((Document.ofText content).lines.take n).length)
      ((Document.ofText content).lines.drop n)
      (ScanState.initial.afterAll ((Document.ofText content).lines.take n))).countP
        (fun change => change.rule = .cleanPackageCache ∧ change.line ≤ n) = 0 := by
    rw [List.countP_eq_zero]
    intro change member
    obtain ⟨starts, within⟩ := line_of_mem_scanChanges config member
    have behind : ¬ change.line ≤ n := by
      rw [List.length_take] at starts within
      rw [List.length_drop] at within
      omega
    simp [behind]
  rw [Report.cleanupsUpTo, changes_harden, rewrites_harden, List.countP_append, inserted, split,
    List.countP_append, early, late, Nat.add_zero]

end Harden

/-- The block's first line declares a user, so it stands in no output of lines that declare none. -/
theorem creation_not_mem_scanLines {config : Config} (accepted : config.Accepted)
    (singles : ∀ command ∈ config.packageCleanup, '\n' ∉ command.toList) {lines : List String}
    (single : ∀ line ∈ lines, '\n' ∉ line.toList)
    (silent : lines.any Instruction.declaresUser = false) (state : ScanState) :
    UserBlock.creation config ∉ scanLines config lines state := by
  intro member
  have declares := List.any_eq_true.mpr ⟨_, member, UserBlock.declaresUser_creation config⟩
  rw [any_declaresUser_eq, scanEvents_scanLines accepted singles single,
    ← any_declaresUser_eq, silent] at declares
  cases declares

/-- The report says at which entry the block stands. Its first physical line has as many further
lines in front of it as the cleanups reported so far have line feeds, so with commands of one line
the reported index is that of the block exactly when no command has been chained in front of it. -/
theorem harden_blockIndex (config : Config) (valid : config.check = .ok ()) (content : String)
    (place : Nat) (inserted : (harden config content).report.userBlockAt = some place) :
    let hardened := harden config content
    let physical := (Document.ofText hardened.content).lines
    let further := hardened.report.cleanupsUpTo place * Text.lineFeeds config.cleanupSuffix
    physical[place + further]? = some (UserBlock.creation config) ∧
    physical[place + further + 1]? = some (UserBlock.switch config) ∧
    hardened.report.changes.filter (·.rule = .insertNonRootUser) =
      [⟨.insertNonRootUser, place + 1, "",
        Document.joinLines [UserBlock.creation config, UserBlock.switch config]⟩] ∧
    ((∀ command ∈ config.packageCleanup, '\n' ∉ command.toList) →
      (physical[place]? = some (UserBlock.creation config) ↔
        hardened.report.cleanupsUpTo place = 0 ∨ config.packageCleanup = [])) := by
  intro hardened physical further
  have accepted := (Config.check_eq_ok_iff config).mp valid
  cases declared : (Document.ofText content).lines.any Instruction.declaresUser with
  | true =>
    rw [harden_of_declared config declared] at inserted
    cases inserted
  | false =>
    have point : UserBlock.insertionPoint (Document.ofText content).lines = place := by
      rw [harden_of_undeclared config declared] at inserted
      exact Option.some.inj inserted
    have bound := UserBlock.insertionPoint_le (Document.ofText content).lines
    have single : ∀ line ∈ (Document.ofText content).lines.take place, '\n' ∉ line.toList :=
      fun line member => Document.lineFeed_not_mem (List.mem_of_mem_take member)
    have silent : ((Document.ofText content).lines.take place).any Instruction.declaresUser =
        false := by
      rw [List.any_eq_false] at declared ⊢
      exact fun line member => declared line (List.mem_of_mem_take member)
    -- The lines in front of the block are those of the entries in front of it.
    have lines := lines_harden_of_undeclared accepted declared point
    rw [point] at bound
    have front := length_scanLines accepted 1 single .initial
    rw [List.length_take_of_le bound, ← cleanupsUpTo_harden] at front
    have first : physical[place + further]? = some (UserBlock.creation config) := by
      rw [show physical = _ from lines, ← front, List.getElem?_append_right (Nat.le_refl _),
        Nat.sub_self]
      rfl
    have second : physical[place + further + 1]? = some (UserBlock.switch config) := by
      rw [show physical = _ from lines, ← front, List.getElem?_append_right (Nat.le_add_right _ 1),
        Nat.add_sub_cancel_left]
      rfl
    have only := insertions_harden config content
    rw [declared, point] at only
    refine ⟨first, second, only, ?_⟩
    intro singles
    rw [← Config.lineFeeds_cleanupSuffix_eq_zero_iff, ← Nat.mul_eq_zero]
    constructor
    · intro stands
      -- In front of the block no line reads like its first one.
      have absent := creation_not_mem_scanLines accepted singles single silent .initial
      by_cases early : place < place + further
      · rw [show physical = _ from lines, List.getElem?_append_left (front ▸ early)] at stands
        exact absurd (List.mem_of_getElem? stands) absent
      · exact Nat.le_zero.mp (Nat.add_le_add_iff_left.mp (Nat.le_of_not_lt early))
    · intro level
      rw [show further = 0 from level] at first
      exact first

/-- Behind a cleanup with two stock commands the block stands two lines below the reported index. -/
theorem harden_blockIndex_stock :
    let content := "RUN apt-get update\nRUN apt-get install -y curl\nCOPY . ."
    let physical := (Document.ofText (harden .stock content).content).lines
    Config.stock.check = .ok () ∧ (harden .stock content).report.userBlockAt = some 2 ∧
      (∀ command ∈ Config.stock.packageCleanup, '\n' ∉ command.toList) ∧
      physical[4]? = some (UserBlock.creation .stock) := by
  intro content physical
  have inserted : (harden .stock content).report.userBlockAt = some 2 := by decide +kernel
  have further : (harden .stock content).report.cleanupsUpTo 2 *
      Text.lineFeeds Config.stock.cleanupSuffix = 2 := by decide +kernel
  obtain ⟨first, -⟩ := harden_blockIndex .stock Config.check_stock content 2 inserted
  rw [further] at first
  exact ⟨Config.check_stock, inserted, by decide +kernel, first⟩

/-- The line at the reported index is not the block's but one of the cleanup commands. -/
theorem reported_blockIndex_inside_cleanup :
    let hardened := harden .stock "RUN apt-get update\nRUN apt-get install -y curl\nCOPY . ."
    Config.stock.check = .ok () ∧ hardened.report.userBlockAt = some 2 ∧
      (Document.ofText hardened.content).lines[2]? = some "    && apt-get clean \\" ∧
      "    && apt-get clean \\" ≠ UserBlock.creation .stock := by
  refine ⟨rfl, by decide +kernel, by decide +kernel, by decide +kernel⟩

end Hardening
